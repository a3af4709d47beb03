import PageCapture.Form.Scenario
import PageCapture.Proofs.Json.RoundTrip

/-!
# Forms that are no records

The values that a field may have without a record of its own: numbers, truth values, texts, the
outcomes of drawings, and lists of such. Each reads back from what it is written as, in both data
formats (`ScalarForm`).
-/

set_option autoImplicit false
set_option relaxedAutoImplicit false

namespace PageCapture

/-- Where there is a value for every item of a list, there is the list of these values. -/
theorem mapM_eq_some_of_forall {α β : Type} {make : α → Option β} {value : α → β} {items : List α}
    (hmake : ∀ item ∈ items, make item = some (value item)) :
    items.mapM make = some (items.map value) := by
  induction items with
  | nil => rfl
  | cons item items ih =>
    rw [List.forall_mem_cons] at hmake
    rw [List.mapM_cons, hmake.1, ih hmake.2]
    rfl

/-- A form that is no record and reads back what it writes, which the reader of JSON has a datum
for. -/
class ScalarForm (α : Type) [Form α] : Prop where
  write_ne_record : ∀ (value : α) (members : List (String × Datum)),
    Form.write value ≠ .record members
  write_plain : ∀ value : α, (Form.write value).Plain
  read?_write : ∀ (dialect : Dialect) (value : α),
    Form.read? dialect (Form.write value) = some value

namespace Datum

theorem int32?_ofInt32 (n : Int32) : (ofInt32 n).int32? = some n := by
  have hrange : (-2147483648 : Int) ≤ n.toInt ∧ n.toInt < 2147483648 :=
    ⟨Int32.le_toInt n, Int32.toInt_lt n⟩
  rw [ofInt32, int32?, integerIn?, if_pos hrange, Option.map_some, Int32.ofInt_toInt]

theorem uint32?_ofUInt32 (n : UInt32) : (ofUInt32 n).uint32? = some n := by
  have hbound := n.toNat_lt
  have hrange : (0 : Int) ≤ n.toNat ∧ (n.toNat : Int) < 4294967296 := by omega
  rw [ofUInt32, uint32?, integerIn?, if_pos hrange, Option.map_some, Int.toNat_natCast,
    UInt32.ofNat_toNat]

end Datum

instance : ScalarForm Int32 where
  write_ne_record _ _ := nofun
  write_plain value := .integer value.toInt
  read?_write _ := Datum.int32?_ofInt32

instance : ScalarForm UInt32 where
  write_ne_record _ _ := nofun
  write_plain value := .integer value.toNat
  read?_write _ := Datum.uint32?_ofUInt32

instance : ScalarForm Bool where
  write_ne_record _ _ := nofun
  write_plain value := .boolean value
  read?_write _ _ := rfl

instance : ScalarForm String where
  write_ne_record _ _ := nofun
  write_plain value := .text value
  read?_write _ _ := rfl

instance : ScalarForm PaintOutcome where
  write_ne_record _ _ := nofun
  write_plain value := .text value.name
  read?_write dialect value := by cases value <;> rfl

instance {α : Type} [Form α] [ScalarForm α] : ScalarForm (List α) where
  write_ne_record _ _ := nofun
  write_plain values := by
    refine .sequence ?_
    rw [List.forall_mem_map]
    exact fun value _ ↦ ScalarForm.write_plain value
  read?_write dialect values := by
    change (values.map Form.write).mapM (Form.read? dialect) = some values
    have hread : ∀ value ∈ values, (Form.read? dialect ∘ Form.write) value = some (id value) :=
      fun value _ ↦ ScalarForm.read?_write dialect value
    rw [List.mapM_map, mapM_eq_some_of_forall hread, List.map_id]

end PageCapture
