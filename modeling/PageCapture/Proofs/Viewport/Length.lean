import PageCapture.Proofs.Viewport.Axis

/-!
# The planned length as a function

What a plan makes of the lengths of an axis, as one formula that holds of all of them
(`AxisPlan.Follows`), and how the length that it plans for the view changes with them: it grows with
the content and with the limit, and it shrinks with the retention and with the client area
(`planAxis_follows`). Nothing is assumed of the lengths themselves: the content may be negative, the
client area longer than the view, and the view longer than the limit.

Both come from `targetLength`, which is monotone in the integers (`targetLength_mono`) and does not
notice that the sum of content and scroll bar is cut at the end of the range
(`targetLength_eq_candidate`).
-/

set_option autoImplicit false
set_option relaxedAutoImplicit false

namespace PageCapture

namespace AxisInput

/-- The thickness of the scroll bar: what the view has more than the client area. -/
def thickness (input : AxisInput) : Int := max 0 (input.view.toInt - input.client.toInt)

/-- The length of the content and the scroll bar, or the end of the range. -/
def candidate (input : AxisInput) : Int := min (input.scroll.toInt + input.thickness) 2147483647

end AxisInput

/-! ### The planned length -/

/-- A longer content, a higher limit, a smaller retention and a shorter client area never make the
planned length shorter. -/
theorem targetLength_mono (view : Int) {client scroll limit retention : Int}
    {shorter longer higher smaller : Int} (hclient : shorter ≤ client) (hscroll : scroll ≤ longer)
    (hlimit : limit ≤ higher) (hretention : smaller ≤ retention) :
    targetLength view client scroll limit retention ≤
      targetLength view shorter longer higher smaller := by
  have hwanted : scroll + max (view - client) 0 ≤ longer + max (view - shorter) 0 := by omega
  have hallowed : min (scroll + max (view - client) 0) limit ≤
      min (longer + max (view - shorter) 0) higher := by omega
  unfold targetLength
  omega

/-- The limit is a length, so that a sum past the end of the range is cut by the limit anyway. -/
theorem targetLength_eq_candidate (input : AxisInput) (limit : Int32) (retention : Int) :
    targetLength input.view.toInt input.client.toInt input.scroll.toInt limit.toInt retention =
      max input.view.toInt (min input.candidate limit.toInt - retention) := by
  have hlimit := Int32.toInt_lt limit
  unfold targetLength AxisInput.candidate AxisInput.thickness
  omega

/-! ### The plan -/

/-- A plan follows from the lengths of its axis. -/
structure AxisPlan.Follows (plan : AxisPlan) (input : AxisInput) (limit retention : Int32) :
    Prop where
  scrollbar : plan.scrollbar.toInt = input.thickness
  targetView : plan.targetView.toInt =
    max input.view.toInt (min input.candidate limit.toInt - retention.toInt)
  /-- The window grows by as much as the view. -/
  targetWindow : plan.targetWindow.toInt - input.window.toInt =
    plan.targetView.toInt - input.view.toInt
  /-- The view does not shrink. -/
  view_le : 0 ≤ plan.targetView.toInt - input.view.toInt
  needsResize : plan.needsResize = true ↔ input.view.toInt < plan.targetView.toInt
  truncated : plan.truncated = true ↔
    input.view.toInt < input.candidate ∧ limit.toInt < input.candidate
  le_limit : plan.targetView.toInt ≤ max input.view.toInt limit.toInt
  /-- Where nothing is left out and nothing held back, all of the content is in view. -/
  holds : plan.truncated = false → retention = 0 →
    input.scroll.toInt + input.thickness ≤ 2147483647 →
      input.scroll.toInt + input.thickness ≤ plan.targetView.toInt

theorem AxisPlan.Meets.follows {plan : AxisPlan} {input : AxisInput} {limit retention : Int32}
    (hplan : plan.Meets input limit retention) (hretention : 0 ≤ retention.toInt) :
    plan.Follows input limit retention := by
  have hscrollbar : plan.scrollbar.toInt = input.thickness :=
    hplan.scrollbar.trans (Int.max_comm _ _)
  have hview : plan.targetView.toInt =
      max input.view.toInt (min input.candidate limit.toInt - retention.toInt) :=
    hplan.targetView.trans (targetLength_eq_candidate input limit retention.toInt)
  have hwindow := hplan.targetWindow
  have htruncated : plan.truncated = true ↔
      input.view.toInt < input.candidate ∧ limit.toInt < input.candidate := by
    rw [hplan.truncated, hscrollbar, ← Int.max_lt]
    rfl
  refine ⟨hscrollbar, hview, by omega, by omega, hplan.needsResize, htruncated, by omega, ?_⟩
  intro hwhole hkept hrange
  rw [Bool.eq_false_iff, ne_eq, htruncated] at hwhole
  rw [hview, hkept, Int32.toInt_zero]
  unfold AxisInput.candidate at hwhole ⊢
  omega

/-- The law of one axis. Assumes: a retention that is not negative, and a plan. The plan follows
from the lengths, and no plan for the same view plans less for a content that is no shorter, a limit
that is no lower, a retention that is no greater and a client area that is no longer. -/
theorem planAxis_follows {input : AxisInput} {limit retention : Int32} {plan : AxisPlan}
    (hretention : 0 ≤ retention.toInt) (hplan : planAxis input limit retention = .ok plan) :
    plan.Follows input limit retention ∧
      ∀ (other : AxisInput) (higher smaller : Int32) (more : AxisPlan),
        planAxis other higher smaller = .ok more → 0 ≤ smaller.toInt → other.view = input.view →
        other.client.toInt ≤ input.client.toInt → input.scroll.toInt ≤ other.scroll.toInt →
        limit.toInt ≤ higher.toInt → smaller.toInt ≤ retention.toInt →
          plan.targetView.toInt ≤ more.targetView.toInt := by
  have hmeets := planAxis_meets hretention hplan
  refine ⟨hmeets.follows hretention, ?_⟩
  intro other higher smaller more hmore hkept hview hclient hscroll hlimit hsmaller
  rw [hmeets.targetView, (planAxis_meets hkept hmore).targetView, hview]
  exact targetLength_mono input.view.toInt hclient hscroll hlimit hsmaller

/-- A content that ends at the end of the range is cut to a low limit and kept five pixels short of
it. With a shorter client area, the highest limit and nothing held back the sum of content and
scroll bar passes the end of the range, and more is planned. -/
theorem planAxis_follows_atEnd :
    ∃ plan more : AxisPlan, planAxis ⟨0, 790, 773, 2147483647⟩ 2000 5 = .ok plan ∧
      planAxis ⟨0, 790, 700, 2147483647⟩ 2147483647 0 = .ok more ∧
      plan.Follows ⟨0, 790, 773, 2147483647⟩ 2000 5 ∧ plan.truncated = true ∧
      more.truncated = false ∧ plan.targetView.toInt ≤ more.targetView.toInt := by
  have hplan : planAxis ⟨0, 790, 773, 2147483647⟩ 2000 5 = .ok ⟨17, 1995, 1205, true, true⟩ := rfl
  have hmore : planAxis ⟨0, 790, 700, 2147483647⟩ 2147483647 0 =
      .ok ⟨90, 2147483647, 2147482857, true, false⟩ := rfl
  obtain ⟨hfollows, hmono⟩ := planAxis_follows (by decide) hplan
  exact ⟨_, _, hplan, hmore, hfollows, rfl, rfl, hmono _ _ _ _ hmore (by decide) rfl (by decide)
    (by decide) (by decide) (by decide)⟩

end PageCapture
