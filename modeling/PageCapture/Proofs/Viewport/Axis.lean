import PageCapture.Proofs.Action.Checked
import PageCapture.Geometry

/-!
# The plan of an axis

`targetLength` is the length that a view is planned to have, in the integers; `targetLength_le` and
`le_targetLength` say between which lengths it lies. `AxisPlan.Meets` says what a plan is: it has
that view and a window which grows by as much. Every plan meets it, whatever the lengths are
(`planAxis_meets`), and there is a plan where the lengths are within range (`exists_planAxis`);
where there is none, a length has left its range (`planAxis_onlyOverflows`).
-/

set_option autoImplicit false
set_option relaxedAutoImplicit false

namespace PageCapture

/-- The length of a view that is planned for a content: the content and the scroll bar, at most the
limit, less the retention, and no shorter than the view is. -/
def targetLength (view client scroll limit retention : Int) : Int :=
  max view (min (scroll + max (view - client) 0) limit - retention)

theorem le_targetLength (view client scroll limit retention : Int) :
    view ≤ targetLength view client scroll limit retention :=
  Int.le_max_left ..

theorem targetLength_le (view client scroll limit : Int) {retention : Int}
    (hretention : 0 ≤ retention) :
    targetLength view client scroll limit retention ≤ max view limit := by
  unfold targetLength
  omega

theorem toInt_allowed (wanted limit : Int32) :
    (if limit < wanted then limit else wanted).toInt = min wanted.toInt limit.toInt := by
  by_cases hcut : limit < wanted
  · rw [if_pos hcut]
    rw [Int32.lt_iff_toInt_lt] at hcut
    omega
  · rw [if_neg hcut]
    rw [Int32.lt_iff_toInt_lt] at hcut
    omega

/-! ### What a plan is -/

theorem toInt_of_targetViewFor {view wanted limit retention target : Int32}
    (hwanted : view.toInt ≤ wanted.toInt) (hretention : 0 ≤ retention.toInt)
    (hplanned : targetViewFor view wanted limit retention = .ok target) :
    target.toInt = max view.toInt (min wanted.toInt limit.toInt - retention.toInt) := by
  unfold targetViewFor at hplanned
  by_cases hgrows : view < wanted
  · rw [if_pos hgrows] at hplanned
    obtain ⟨kept, hkept, hlonger⟩ := exists_of_bind hplanned
    rw [Checked.subtract_eq_ok_iff, toInt_allowed] at hkept
    obtain rfl : max kept view = target := Except.ok.inj hlonger
    rw [toInt_max, hkept, Int.max_comm]
  · rw [if_neg hgrows] at hplanned
    obtain rfl : wanted = target := Except.ok.inj hplanned
    rw [Int32.lt_iff_toInt_lt] at hgrows
    omega

theorem toInt_of_targetWindowFor {window view target grown : Int32}
    (hplanned : targetWindowFor window view target = .ok grown) :
    grown.toInt = window.toInt + max (target.toInt - view.toInt) 0 := by
  unfold targetWindowFor at hplanned
  by_cases hgrows : view < target
  · rw [if_pos hgrows] at hplanned
    obtain ⟨more, hmore, hsum⟩ := exists_of_bind hplanned
    rw [Checked.subtract_eq_ok_iff] at hmore
    rw [Checked.add_eq_ok_iff] at hsum
    rw [Int32.lt_iff_toInt_lt] at hgrows
    omega
  · rw [if_neg hgrows] at hplanned
    obtain rfl : window = grown := Except.ok.inj hplanned
    rw [Int32.lt_iff_toInt_lt] at hgrows
    omega

/-- The plan of an axis in the integers. -/
structure AxisPlan.Meets (plan : AxisPlan) (input : AxisInput) (limit retention : Int32) :
    Prop where
  scrollbar : plan.scrollbar.toInt = max (input.view.toInt - input.client.toInt) 0
  targetView : plan.targetView.toInt = targetLength input.view.toInt input.client.toInt
    input.scroll.toInt limit.toInt retention.toInt
  targetWindow : plan.targetWindow.toInt =
    input.window.toInt + (plan.targetView.toInt - input.view.toInt)
  needsResize : plan.needsResize = true ↔ input.view.toInt < plan.targetView.toInt
  /-- The content is longer than the view and than the limit. -/
  truncated : plan.truncated = true ↔
    max input.view.toInt limit.toInt <
      min (input.scroll.toInt + plan.scrollbar.toInt) 2147483647

/-- The content and the scroll bar. The scroll bar is not negative, so that the sum is cut at the
upper end of the range only. -/
theorem toInt_content (scroll : Int32) {view client difference : Int32}
    (hdifference : difference.toInt = view.toInt - client.toInt) :
    (max view (saturatingAdd scroll (max difference 0))).toInt =
      max view.toInt (min (scroll.toInt + max (view.toInt - client.toInt) 0) 2147483647) := by
  have hlow := Int32.le_toInt scroll
  rw [toInt_max, toInt_saturatingAdd, toInt_max, hdifference, Int32.toInt_zero]
  omega

/-- A plan is what it has to be. Assumes: a retention that is not negative. -/
theorem planAxis_meets {input : AxisInput} {limit retention : Int32} {plan : AxisPlan}
    (hretention : 0 ≤ retention.toInt) (hplan : planAxis input limit retention = .ok plan) :
    plan.Meets input limit retention := by
  obtain ⟨difference, hdifference, hafter⟩ := exists_of_bind hplan
  obtain ⟨target, htarget, hbehind⟩ := exists_of_bind hafter
  obtain ⟨grown, hgrown, hlast⟩ := exists_of_bind hbehind
  rw [Checked.subtract_eq_ok_iff] at hdifference
  have hscrollbar : (max difference 0).toInt = max (input.view.toInt - input.client.toInt) 0 := by
    rw [toInt_max, hdifference, Int32.toInt_zero]
  have hwanted := toInt_content input.scroll hdifference
  have hbound := Int32.toInt_lt limit
  have hview := toInt_of_targetViewFor (by omega) hretention htarget
  have hlength : target.toInt = targetLength input.view.toInt input.client.toInt
      input.scroll.toInt limit.toInt retention.toInt := by
    rw [hview, hwanted, targetLength]
    omega
  have hwindow := toInt_of_targetWindowFor hgrown
  have hcut : (input.view < max input.view (saturatingAdd input.scroll (max difference 0)) ∧
      limit < max input.view (saturatingAdd input.scroll (max difference 0))) ↔
      max input.view.toInt limit.toInt <
        min (input.scroll.toInt + (max difference 0).toInt) 2147483647 := by
    rw [Int32.lt_iff_toInt_lt, Int32.lt_iff_toInt_lt, hwanted, hscrollbar]
    omega
  cases hlast
  exact ⟨hscrollbar, hlength, by simp only; omega, decide_eq_true_iff.trans Int32.lt_iff_toInt_lt,
    decide_eq_true_iff.trans hcut⟩

/-! ### Plans that are there -/

theorem exists_targetViewFor (view wanted limit retention : Int32) (hview : 0 ≤ view.toInt)
    (hlimit : 0 ≤ limit.toInt) (hretention : 0 ≤ retention.toInt) :
    ∃ target, targetViewFor view wanted limit retention = .ok target := by
  unfold targetViewFor
  by_cases hgrows : view < wanted
  · have hallowed := toInt_allowed wanted limit
    have hbelow := Int32.toInt_lt wanted
    have hbound := Int32.toInt_lt retention
    have hwanted := Int32.lt_iff_toInt_lt.mp hgrows
    obtain ⟨kept, hkept, -⟩ := Checked.exists_length .subtract
      (n := (if limit < wanted then limit else wanted).toInt - retention.toInt)
      (by omega) (by omega)
    refine ⟨max kept view, ?_⟩
    rw [if_pos hgrows]
    change (Checked.length .subtract _).bind _ = _
    rw [hkept]
    rfl
  · exact ⟨wanted, if_neg hgrows⟩

theorem exists_targetWindowFor (window view target : Int32) (hview : 0 ≤ view.toInt)
    (hroom : window.toInt + (target.toInt - view.toInt) < 2147483648) :
    ∃ grown, targetWindowFor window view target = .ok grown := by
  have hbound := Int32.toInt_lt target
  have hlow := Int32.le_toInt window
  unfold targetWindowFor
  by_cases hgrows : view < target
  · have hlonger := Int32.lt_iff_toInt_lt.mp hgrows
    obtain ⟨more, hmore, hdifference⟩ := Checked.exists_length .subtract
      (n := target.toInt - view.toInt) (by omega) (by omega)
    obtain ⟨grown, hgrown, -⟩ := Checked.exists_length .add
      (n := window.toInt + more.toInt) (by omega) (by omega)
    refine ⟨grown, ?_⟩
    rw [if_pos hgrows]
    change (Checked.length .subtract _).bind _ = _
    rw [hmore]
    exact hgrown
  · exact ⟨window, if_neg hgrows⟩

/-- There is a plan. Assumes: view and client area, limit and retention are not negative, and the
window has room for what the view grows by. -/
theorem exists_planAxis (input : AxisInput) (limit retention : Int32)
    (hview : 0 ≤ input.view.toInt) (hclient : 0 ≤ input.client.toInt)
    (hlimit : 0 ≤ limit.toInt) (hretention : 0 ≤ retention.toInt)
    (hroom : input.window.toInt + (targetLength input.view.toInt input.client.toInt
      input.scroll.toInt limit.toInt retention.toInt - input.view.toInt) < 2147483648) :
    ∃ plan, planAxis input limit retention = .ok plan := by
  have hbound := Int32.toInt_lt input.view
  have hbelow := Int32.toInt_lt input.client
  obtain ⟨difference, hdifference, hthickness⟩ := Checked.exists_length .subtract
    (n := input.view.toInt - input.client.toInt) (by omega) (by omega)
  have hwanted := toInt_content input.scroll hthickness
  obtain ⟨target, htarget⟩ := exists_targetViewFor input.view
    (max input.view (saturatingAdd input.scroll (max difference 0))) limit retention hview hlimit
    hretention
  have hbounded := Int32.toInt_lt limit
  have hlength := toInt_of_targetViewFor (by omega) hretention htarget
  obtain ⟨grown, hgrown⟩ := exists_targetWindowFor input.window input.view target hview (by
    unfold targetLength at hroom
    omega)
  have hplan : planAxis input limit retention = .ok {
      scrollbar := max difference 0
      targetView := target
      targetWindow := grown
      needsResize := decide (input.view < target)
      truncated := decide
        (input.view < max input.view (saturatingAdd input.scroll (max difference 0)) ∧
          limit < max input.view (saturatingAdd input.scroll (max difference 0))) } := by
    unfold planAxis
    change (Checked.length .subtract _).bind _ = _
    rw [hdifference]
    change (targetViewFor _ _ _ _).bind _ = _
    rw [htarget]
    change (targetWindowFor _ _ _).bind _ = _
    rw [hgrown]
    rfl
  exact ⟨_, hplan⟩

/-! ### Plans that are not there -/

/-- Planning an axis meets no other fault than an overflow. -/
theorem planAxis_onlyOverflows (input : AxisInput) (limit retention : Int32) :
    OnlyOverflows (planAxis input limit retention) := by
  have hsubtract : ∀ a b, OnlyOverflows (Checked.subtract a b) :=
    fun a b ↦ Checked.length_onlyOverflows _ _
  refine (hsubtract _ _).bind fun difference ↦ OnlyOverflows.bind ?_ fun targetView ↦
    OnlyOverflows.bind ?_ fun targetWindow ↦ .ok _
  · unfold targetViewFor
    split
    · exact (hsubtract _ _).bind fun _ ↦ .ok _
    · exact .ok _
  · unfold targetWindowFor
    split
    · exact (hsubtract _ _).bind fun _ ↦ Checked.length_onlyOverflows _ _
    · exact .ok _

end PageCapture
