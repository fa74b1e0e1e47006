import KanaSettings.Proofs.Json.Shape

/-!
# Values with other numbers

To put other numbers in the place of those in a value changes nothing else of it.
-/

namespace KanaSettings.Json

/-- A value in which each number is replaced by what a function makes of it. -/
def mapNumbers (f : Number → Number) : Json → Json
  | .null => .null
  | .bool value => .bool value
  | .number n => .number (f n)
  | .string value => .string value
  | .array items => .array (items.map fun item => mapNumbers f item)
  | .object members => .object (members.map fun member => (member.1, mapNumbers f member.2))
termination_by value => sizeOf value
decreasing_by
  · exact sizeOf_item ‹_›
  · exact sizeOf_member ‹_›

variable {f g : Number → Number}

lemma map_eq_self {α : Type} {f : α → α} {as : List α} (h : ∀ a ∈ as, f a = a) : as.map f = as := by
  conv_rhs => rw [← List.map_id as]
  exact List.map_congr_left h

lemma mapNumbers_eq_self {v : Json} (same : ∀ n ∈ v.numbers, f n = n) : v.mapNumbers f = v := by
  induction v using Json.induction with
  | null | bool value | string value => rw [mapNumbers]
  | number n => rw [mapNumbers, same n (by simp [numbers])]
  | array items ih =>
    rw [numbers] at same
    rw [mapNumbers, map_eq_self fun item mem => ih item mem fun n h =>
      same n (List.mem_flatMap.2 ⟨item, mem, h⟩)]
  | object members ih =>
    rw [numbers] at same
    rw [mapNumbers, map_eq_self]
    intro m mem
    exact Prod.ext rfl (ih m mem fun n h => same n (List.mem_flatMap.2 ⟨m, mem, h⟩))

lemma mapNumbers_of_none {v : Json} (none : v.numbers = []) : v.mapNumbers f = v :=
  mapNumbers_eq_self (by simp [none])

lemma mapNumbers_mapNumbers (f g : Number → Number) (v : Json) :
    (v.mapNumbers f).mapNumbers g = v.mapNumbers (g ∘ f) := by
  induction v using Json.induction with
  | null | bool value | string value | number n => simp only [mapNumbers, Function.comp_apply]
  | array items ih =>
    have same := List.map_congr_left ih
    simp only [mapNumbers, List.map_map, Function.comp_def] at same ⊢
    rw [same]
  | object members ih =>
    simp only [mapNumbers, List.map_map, Function.comp_def]
    congr 1
    exact List.map_congr_left fun m mem => Prod.ext rfl (ih m mem)

lemma numbers_mapNumbers (f : Number → Number) (v : Json) :
    (v.mapNumbers f).numbers = v.numbers.map f := by
  induction v using Json.induction with
  | null | bool value | string value | number n => simp [mapNumbers, numbers]
  | array items ih =>
    simp only [mapNumbers, numbers, List.flatMap_map, List.map_flatMap]
    exact List.flatMap_congr ih
  | object members ih =>
    simp only [mapNumbers, numbers, List.flatMap_map, List.map_flatMap]
    exact List.flatMap_congr ih

lemma eq_of_mapNumbers_eq {v w : Json} (same : v.mapNumbers f = w) (none : w.numbers = []) :
    v = w := by
  have bare : v.numbers = [] := by
    rw [← same, numbers_mapNumbers] at none
    exact List.map_eq_nil_iff.1 none
  rwa [mapNumbers_of_none bare] at same

lemma distinct_mapNumbers {v : Json} : (v.mapNumbers f).Distinct ↔ v.Distinct := by
  induction v using Json.induction with
  | null | bool value | string value | number n => simp [mapNumbers, Distinct]
  | array items ih =>
    simp only [mapNumbers, Distinct, List.forall_mem_map]
    exact forall₂_congr ih
  | object members ih =>
    simp only [mapNumbers, Distinct, List.forall_mem_map, Members.keys, List.map_map]
    exact and_congr_right fun _ => forall₂_congr ih

lemma nesting_mapNumbers (f : Number → Number) (v : Json) :
    (v.mapNumbers f).nesting = v.nesting := by
  induction v using Json.induction with
  | null | bool value | string value | number n => simp [mapNumbers, nesting]
  | array items ih =>
    have same := List.map_congr_left ih
    simp only [mapNumbers, nesting, List.map_map, Function.comp_def, same]
  | object members ih =>
    have same := List.map_congr_left ih
    simp only [mapNumbers, nesting, List.map_map, Function.comp_def, same]

lemma field?_mapNumbers (v : Json) (key : String) :
    (v.mapNumbers f).field? key = (v.field? key).map (mapNumbers f) := by
  cases v with
  | object members =>
    rw [mapNumbers]
    exact Members.get?_map (mapNumbers f) members key
  | _ =>
    rw [mapNumbers]
    rfl

end KanaSettings.Json
