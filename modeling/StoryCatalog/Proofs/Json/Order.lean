import StoryCatalog.Json.Record
import StoryCatalog.Proofs.RelatedLists

/-!
# The order of members

The members of an object may be written in any order. As long as no object gives two members one name, all orders
settle to the same value, and a look-up finds the same in all of them.

* `enter_comm`: it does not matter in which order members with different names are entered.
* `Reorders.settle_eq`: all orders settle to the same value.
* `Reorders.find_object`: a look-up finds the same value, or the same in another order.
-/

namespace StoryCatalog.Json

/-- In no object in a value two members have one name. -/
inductive Distinct : Json → Prop where
  | null : Distinct null
  | bool (b : Bool) : Distinct (bool b)
  | number (n : Number) : Distinct (number n)
  | string (s : String) : Distinct (string s)
  | broken : Distinct broken
  | array {js : List Json} (items : ∀ j ∈ js, Distinct j) : Distinct (array js)
  | object {ms : Members} (names : (ms.map (·.1)).Nodup) (values : ∀ m ∈ ms, Distinct m.2) : Distinct (object ms)

/-- The members of one object in a value are written in another order. -/
inductive Reorders : Json → Json → Prop where
  | members {ms ms' : Members} (order : ms.Perm ms') : Reorders (object ms) (object ms')
  | item {before after : List Json} {j j' : Json} (h : Reorders j j') :
    Reorders (array (before ++ j :: after)) (array (before ++ j' :: after))
  | member {before after : Members} {name : String} {j j' : Json} (h : Reorders j j') :
    Reorders (object (before ++ (name, j) :: after)) (object (before ++ (name, j') :: after))

section

variable {js before after : List Json} {ms ms' : Members} {j j' : Json} {name : String}

theorem distinct_array : Distinct (array js) ↔ ∀ j ∈ js, Distinct j := by
  constructor
  · intro h
    cases h with
    | array items => exact items
  · exact .array

theorem distinct_object : Distinct (object ms) ↔ (ms.map (·.1)).Nodup ∧ ∀ m ∈ ms, Distinct m.2 := by
  constructor
  · intro h
    cases h with
    | object names values => exact ⟨names, values⟩
  · exact fun h => .object h.1 h.2

theorem soundItems_eq_all : soundItems js = js.all isSound := by
  induction js with
  | nil => rfl
  | cons j js ih => rw [soundItems, ih, List.all_cons]

theorem soundMembers_eq_all : soundMembers ms = ms.all (·.2.isSound) := by
  induction ms with
  | nil => rfl
  | cons m ms ih => rw [soundMembers, ih, List.all_cons]

theorem isSound_array : (array js).isSound = js.all isSound := by
  rw [isSound, soundItems_eq_all]

theorem isSound_object : (object ms).isSound = ms.all (·.2.isSound) := by
  rw [isSound, soundMembers_eq_all]

/-! ## Values in the order of names -/

theorem enter_cons_of_eq {k m : String × Json} (h : k.1 = m.1) (ms : Members) : enter m (k :: ms) = k :: ms :=
  if_pos h

theorem enter_cons_of_lt {k m : String × Json} (h : m.1 < k.1) (ms : Members) :
    enter m (k :: ms) = m :: k :: ms := by
  have hne : k.1 ≠ m.1 := fun he => String.lt_irrefl m.1 (he ▸ h)
  rw [enter, if_neg hne, if_pos h]

theorem enter_cons_of_gt {k m : String × Json} (h : k.1 < m.1) (ms : Members) :
    enter m (k :: ms) = k :: enter m ms := by
  have hne : k.1 ≠ m.1 := fun he => String.lt_irrefl m.1 (he ▸ h)
  rw [enter, if_neg hne, if_neg (String.lt_asymm h)]

/-- **Members with different names** may be entered in either order. -/
theorem enter_comm {a b : String × Json} (h : a.1 ≠ b.1) (ms : Members) :
    enter a (enter b ms) = enter b (enter a ms) := by
  induction ms with
  | nil =>
    rcases Std.lt_trichotomy a.1 b.1 with hlt | he | hgt
    · rw [enter, enter, enter_cons_of_lt hlt, enter_cons_of_gt hlt, enter]
    · exact absurd he h
    · rw [enter, enter, enter_cons_of_gt hgt, enter_cons_of_lt hgt, enter]
  | cons k ms ih =>
    rcases Std.lt_trichotomy a.1 k.1 with ha | ha | ha <;> rcases Std.lt_trichotomy b.1 k.1 with hb | hb | hb
    · -- Both stand before the first member, so they are compared with each other.
      rw [enter_cons_of_lt ha, enter_cons_of_lt hb]
      rcases Std.lt_trichotomy a.1 b.1 with hlt | he | hgt
      · rw [enter_cons_of_lt hlt, enter_cons_of_gt hlt, enter_cons_of_lt hb]
      · exact absurd he h
      · rw [enter_cons_of_gt hgt, enter_cons_of_lt hgt, enter_cons_of_lt ha]
    · have hab : a.1 < b.1 := hb ▸ ha
      rw [enter_cons_of_lt ha, enter_cons_of_eq hb.symm, enter_cons_of_lt ha, enter_cons_of_gt hab,
        enter_cons_of_eq hb.symm]
    · have hab : a.1 < b.1 := String.lt_trans ha hb
      rw [enter_cons_of_lt ha, enter_cons_of_gt hb, enter_cons_of_lt ha, enter_cons_of_gt hab, enter_cons_of_gt hb]
    · have hba : b.1 < a.1 := ha ▸ hb
      rw [enter_cons_of_eq ha.symm, enter_cons_of_lt hb, enter_cons_of_gt hba, enter_cons_of_eq ha.symm]
    · exact absurd (ha.trans hb.symm) h
    · rw [enter_cons_of_eq ha.symm, enter_cons_of_gt hb, enter_cons_of_eq ha.symm]
    · have hba : b.1 < a.1 := String.lt_trans hb ha
      rw [enter_cons_of_gt ha, enter_cons_of_lt hb, enter_cons_of_gt hba, enter_cons_of_gt ha, enter_cons_of_lt hb]
    · rw [enter_cons_of_gt ha, enter_cons_of_eq hb.symm, enter_cons_of_gt ha, enter_cons_of_eq hb.symm]
    · rw [enter_cons_of_gt ha, enter_cons_of_gt hb, enter_cons_of_gt ha, enter_cons_of_gt hb, ih]

theorem settleItems_eq_map : settleItems js = js.map settle := by
  induction js with
  | nil => rfl
  | cons j js ih => rw [settleItems, ih, List.map_cons]

theorem settleMembers_append_congr (before : Members) (h : settleMembers ms = settleMembers ms') :
    settleMembers (before ++ ms) = settleMembers (before ++ ms') := by
  induction before with
  | nil => exact h
  | cons m before ih => rw [List.cons_append, List.cons_append, settleMembers, settleMembers, ih]

theorem settleMembers_perm (h : ms.Perm ms') (names : (ms.map (·.1)).Nodup) :
    settleMembers ms = settleMembers ms' := by
  induction h with
  | nil => rfl
  | cons m _ ih =>
    rw [List.map_cons, List.nodup_cons] at names
    rw [settleMembers, settleMembers, ih names.2]
  | swap a b ms =>
    have hne : b.1 ≠ a.1 := by
      rw [List.map_cons, List.map_cons, List.nodup_cons] at names
      exact fun he => names.1 (he ▸ List.mem_cons_self)
    simp only [settleMembers]
    exact enter_comm (a := (b.1, b.2.settle)) (b := (a.1, a.2.settle)) hne _
  | trans h _ ih ih' => rw [ih names, ih' ((h.map _).nodup_iff.mp names)]

/-! ## What a look-up finds -/

theorem valuesOf_append (name : String) (ms ms' : Members) :
    valuesOf name (ms ++ ms') = valuesOf name ms ++ valuesOf name ms' := by
  rw [valuesOf, List.filter_append, List.map_append]
  rfl

theorem valuesOf_cons_self (name : String) (j : Json) (ms : Members) :
    valuesOf name ((name, j) :: ms) = j :: valuesOf name ms := by
  simp [valuesOf]

theorem valuesOf_cons_of_ne {m : String × Json} (h : m.1 ≠ name) (ms : Members) :
    valuesOf name (m :: ms) = valuesOf name ms := by
  simp [valuesOf, h]

theorem member?_cons_of_ne {m : String × Json} (h : m.1 ≠ name) (ms : Members) :
    member? name (m :: ms) = member? name ms := by
  rw [member?, member?, valuesOf_cons_of_ne h]

theorem member?_perm (h : ms.Perm ms') : member? name ms = member? name ms' := by
  have hv : (valuesOf name ms).Perm (valuesOf name ms') := (h.filter _).map _
  rw [member?, member?]
  generalize valuesOf name ms = vs at hv
  generalize valuesOf name ms' = vs' at hv
  rcases vs with _ | ⟨j, _ | ⟨i, vs⟩⟩
  · rw [List.nil_perm.mp hv]
  · rw [List.singleton_perm.mp hv]
  · have hlength := hv.length_eq
    rcases vs' with _ | ⟨j', _ | ⟨i', vs'⟩⟩
    · cases hlength
    · cases hlength
    · rfl

/-- Values that stand in a relation are found in two objects if all values under the name do. -/
theorem member?_rel {R : Json → Json → Prop} (h : List.Forall₂ R (valuesOf name ms) (valuesOf name ms')) :
    Option.Rel (Option.Rel R) (member? name ms) (member? name ms') := by
  rw [member?, member?]
  generalize valuesOf name ms = vs at h
  generalize valuesOf name ms' = vs' at h
  cases h with
  | nil => exact .some .none
  | cons hj h =>
    cases h with
    | nil => exact .some (.some hj)
    | cons => exact .none

/-- A look-up fails in both objects, finds nothing in both, or values that stand in a relation. -/
theorem find_cases {R : Json → Json → Prop} {o o' : Option (Option Json)} (h : Option.Rel (Option.Rel R) o o') :
    (o = none ∧ o' = none) ∨ (o = some none ∧ o' = some none) ∨
      ∃ j j', o = some (some j) ∧ o' = some (some j') ∧ R j j' := by
  cases h with
  | none => exact .inl ⟨rfl, rfl⟩
  | some h =>
    cases h with
    | none => exact .inr (.inl ⟨rfl, rfl⟩)
    | some h => exact .inr (.inr ⟨_, _, rfl, rfl, h⟩)

/-- What is found in one object is found there again. -/
theorem find_refl {R : Json → Json → Prop} {o : Option (Option Json)} (h : ∀ j, o = some (some j) → R j j) :
    Option.Rel (Option.Rel R) o o := by
  rcases o with _ | _ | j
  · exact .none
  · exact .some .none
  · exact .some (.some (h j rfl))

/-- **Where one member differs**, a look-up finds what it found before, or under the name of this member what
stands there instead. -/
theorem member?_replace {R : Json → Json → Prop} (hrefl : ∀ j, R j j) (before after : Members) (key : String)
    (h : name = key → R j j') :
    Option.Rel (Option.Rel R) (member? name (before ++ (key, j) :: after))
      (member? name (before ++ (key, j') :: after)) := by
  refine member?_rel ?_
  rw [valuesOf_append, valuesOf_append]
  by_cases hkey : name = key
  · subst hkey
    rw [valuesOf_cons_self, valuesOf_cons_self]
    exact forall₂_replace hrefl _ _ (h rfl)
  · have hne : key ≠ name := fun he => hkey he.symm
    rw [valuesOf_cons_of_ne hne, valuesOf_cons_of_ne hne]
    exact List.forall₂_same.mpr fun j _ => hrefl j

end

/-! ## Other orders -/

namespace Reorders

variable {j j' : Json}

theorem isSound_eq (h : Reorders j j') : j'.isSound = j.isSound := by
  induction h with
  | members order => rw [isSound_object, isSound_object, order.all_eq]
  | item _ ih => simp only [isSound_array, List.all_append, List.all_cons, ih]
  | member _ ih => simp only [isSound_object, List.all_append, List.all_cons, ih]

theorem distinct (h : Reorders j j') (hj : j.Distinct) : j'.Distinct := by
  induction h with
  | members order =>
    rw [distinct_object] at hj ⊢
    exact ⟨(order.map _).nodup_iff.mp hj.1, fun m hm => hj.2 m (order.mem_iff.mpr hm)⟩
  | item _ ih =>
    simp only [distinct_array, List.forall_mem_append, List.forall_mem_cons] at hj ⊢
    exact ⟨hj.1, ih hj.2.1, hj.2.2⟩
  | member _ ih =>
    simp only [distinct_object, List.forall_mem_append, List.forall_mem_cons, List.map_append,
      List.map_cons] at hj ⊢
    exact ⟨hj.1, hj.2.1, ih hj.2.2.1, hj.2.2.2⟩

/-- **All orders settle to the same value.** -/
theorem settle_eq (h : Reorders j j') (hj : j.Distinct) : j.settle = j'.settle := by
  induction h with
  | members order => rw [settle, settle, settleMembers_perm order (distinct_object.mp hj).1]
  | item _ ih =>
    have hitem := (List.forall_mem_cons.mp (List.forall_mem_append.mp (distinct_array.mp hj)).2).1
    simp only [settle, settleItems_eq_map, List.map_append, List.map_cons, ih hitem]
  | @member before after name j j' _ ih =>
    have hmember := (List.forall_mem_cons.mp (List.forall_mem_append.mp (distinct_object.mp hj).2).2).1
    have htail : settleMembers ((name, j) :: after) = settleMembers ((name, j') :: after) := by
      rw [settleMembers, settleMembers, ih hmember]
    rw [settle, settle, settleMembers_append_congr before htail]

/-- Only an object is another order of an object, and **a look-up finds** the same in both, or the same in another
order. -/
theorem find_object {ms : Members} (h : Reorders (object ms) j') :
    ∃ ms', j' = object ms' ∧ ∀ name, Option.Rel (Option.Rel fun i i' => i = i' ∨ Reorders i i')
      (member? name ms) (member? name ms') := by
  generalize hj : object ms = j at h
  cases h with
  | @members ms₁ ms' order =>
    cases hj
    refine ⟨ms', rfl, fun name => ?_⟩
    rw [member?_perm order]
    exact find_refl fun _ _ => .inl rfl
  | item => cases hj
  | @member before after key i i' hi =>
    cases hj
    refine ⟨_, rfl, fun name => ?_⟩
    exact member?_replace (fun _ => .inl rfl) before after key fun _ => .inr hi

/-- Only an array is another order of an array, and its items are the same or the same in another order. -/
theorem items_array {js : List Json} (h : Reorders (array js) j') :
    ∃ js', j' = array js' ∧ List.Forall₂ (fun i i' => i = i' ∨ Reorders i i') js js' := by
  generalize hj : array js = j at h
  cases h with
  | members => cases hj
  | @item before after i i' hi =>
    cases hj
    exact ⟨_, rfl, forall₂_replace (fun _ => .inl rfl) before after (.inr hi)⟩
  | member => cases hj

end Reorders

end StoryCatalog.Json
