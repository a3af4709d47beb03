import PageCapture.Proofs.Viewport.Axis

/-!
# One growth is enough

A plan lets a view grow once. `planAxis_settles` says that the axis which comes out of it, with
window, view and client area longer by as much and a content that fills the client area at least
(`AxisInput.GrownFrom`), is planned to stay as it is: the same scroll bar is inferred, nothing is
resized and no length leaves its range. So captures that are repeated do not let a window grow on
and on, although the retention leaves the content a little longer than the client area.

The reason is one equation about lengths, `targetLength_settles`: the length that is planned for the
view is planned for it again.
-/

set_option autoImplicit false
set_option relaxedAutoImplicit false

namespace PageCapture

/-- Of a view that has the planned length the same length is planned. Assumes: a client area that is
no longer than the view, and a retention that is not negative. -/
theorem targetLength_settles {view client scroll limit retention grown : Int}
    (hclient : client ≤ view) (hretention : 0 ≤ retention)
    (hgrown : grown = targetLength view client scroll limit retention) :
    targetLength grown (client + (grown - view)) (max scroll (client + (grown - view))) limit
      retention = grown := by
  -- The scroll bar is as thick as before, so the content and the scroll bar take what they took, or
  -- the whole view if that is longer.
  have hwanted : max scroll (client + (grown - view)) +
      max (grown - (client + (grown - view))) 0 = max (scroll + (view - client)) grown := by
    omega
  rw [targetLength, hwanted, hgrown, targetLength]
  omega

/-- A plan does not make a view smaller. -/
theorem AxisPlan.Meets.view_le {plan : AxisPlan} {input : AxisInput} {limit retention : Int32}
    (hplan : plan.Meets input limit retention) : input.view.toInt ≤ plan.targetView.toInt := by
  rw [hplan.targetView]
  exact le_targetLength ..

/-- The axis after its view has grown: window, view and client area are longer by as much, and the
content fills the client area at least. -/
structure AxisInput.GrownFrom (after before : AxisInput) (growth : Int) : Prop where
  window : after.window.toInt = before.window.toInt + growth
  view : after.view.toInt = before.view.toInt + growth
  client : after.client.toInt = before.client.toInt + growth
  scroll : after.scroll.toInt = max before.scroll.toInt after.client.toInt

/-- An axis can grow as it is planned: no length leaves its range. Assumes: a client area that is
not negative and no longer than the view. -/
theorem AxisPlan.Meets.exists_grownFrom {plan : AxisPlan} {input : AxisInput}
    {limit retention : Int32} (hplan : plan.Meets input limit retention)
    (hclient : 0 ≤ input.client.toInt) (hview : input.client.toInt ≤ input.view.toInt) :
    ∃ after : AxisInput, after.GrownFrom input (plan.targetView.toInt - input.view.toInt) ∧
      after.view = plan.targetView := by
  have hlonger := hplan.view_le
  have hbound := Int32.toInt_lt plan.targetView
  obtain ⟨client, -, hgrown⟩ := Checked.exists_length .add
    (n := input.client.toInt + (plan.targetView.toInt - input.view.toInt)) (by omega) (by omega)
  refine ⟨⟨plan.targetWindow, plan.targetView, client, max input.scroll client⟩,
    ⟨hplan.targetWindow, ?_, hgrown, toInt_max _ _⟩, rfl⟩
  simp only
  omega

/-- One growth is enough. Assumes: a client area that is not negative and no longer than the view, a
limit of at least one, a retention that is not negative, and a plan. The axis after the growth can
be planned, whatever the lengths are; the plan has the same scroll bar, wants no resize and leaves
view and window as they are. -/
theorem planAxis_settles {input : AxisInput} {limit retention : Int32} {plan : AxisPlan}
    (hclient : 0 ≤ input.client.toInt) (hview : input.client.toInt ≤ input.view.toInt)
    (hlimit : 1 ≤ limit.toInt) (hretention : 0 ≤ retention.toInt)
    (hplan : planAxis input limit retention = .ok plan) :
    ∃ after : AxisInput, after.GrownFrom input (plan.targetView.toInt - input.view.toInt) ∧
      ∃ again, planAxis after limit retention = .ok again ∧ again.scrollbar = plan.scrollbar ∧
        again.needsResize = false ∧ again.targetView = after.view ∧
        again.targetWindow = after.window := by
  have hmeets := planAxis_meets hretention hplan
  obtain ⟨after, hafter, hgrown⟩ := hmeets.exists_grownFrom hclient hview
  have hsettled := targetLength_settles hview hretention hmeets.targetView
  rw [← hafter.client, ← hafter.scroll, ← hgrown] at hsettled
  have hlonger := hmeets.view_le
  have hlength := hafter.view
  have hwidened := hafter.client
  have hbound := Int32.toInt_lt after.window
  -- The second plan adds nothing to the window, so there is room for it.
  obtain ⟨again, hagain⟩ := exists_planAxis after limit retention (by omega) (by omega) (by omega)
    hretention (by omega)
  have hsecond := planAxis_meets hretention hagain
  have hlasting : again.targetView.toInt = after.view.toInt := hsecond.targetView.trans hsettled
  refine ⟨after, hafter, again, hagain, Int32.toInt_inj.mp ?_, ?_, Int32.toInt_inj.mp hlasting,
    Int32.toInt_inj.mp ?_⟩
  · rw [hsecond.scrollbar, hmeets.scrollbar]
    omega
  · rw [Bool.eq_false_iff, ne_eq, hsecond.needsResize]
    omega
  · rw [hsecond.targetWindow]
    omega

/-- Half of a page is left out, and the view is kept five pixels short of the limit: the content
remains longer than the view that has grown, and still the view does not grow again. -/
theorem planAxis_settles_truncated :
    ∃ plan, planAxis ⟨800, 790, 773, 4000⟩ 2000 5 = .ok plan ∧ plan.truncated = true ∧
      plan.targetView = 1995 ∧
      ∃ after : AxisInput, after.GrownFrom ⟨800, 790, 773, 4000⟩ (plan.targetView.toInt - 790) ∧
        ∃ again, planAxis after 2000 5 = .ok again ∧ again.scrollbar = plan.scrollbar ∧
          again.needsResize = false ∧ again.targetView = after.view ∧
          again.targetWindow = after.window :=
  ⟨⟨17, 1995, 2005, true, true⟩, rfl, rfl, rfl,
    planAxis_settles (by decide) (by decide) (by decide) (by decide) rfl⟩

end PageCapture
