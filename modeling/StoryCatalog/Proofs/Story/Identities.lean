import Mathlib.Data.List.Induction
import StoryCatalog.Story.Identity

/-!
# Ids given one after the other

A registry answers a sequence of calls, each with a name and perhaps an explicit id. What it knows
after some calls is what these calls were answered, so whether an id has been given before can be read
off the calls alone.

* `resolvedBy_generatedIds`, `resolvedBy_explicitIds`: what a registry knows after a sequence of calls.
* `collides_resolvedBy_iff`: a derived id collides exactly if it is among the taken ids.
* `nextId_mem_iff`: a generated id is an earlier one exactly if the derived id is taken and the suffixed
  one is such an earlier id.
* `nodup_generated_iff`: no generated id repeats exactly if none is an earlier one.
-/

namespace StoryCatalog.Registry

/-- A call for an id: the name of the story, and its explicit id if it has one. -/
abbrev Call := String × Option String

/-- The answer to a call: the id and the warning, if there was one. -/
abbrev Answer := String × Option Warning

/-- The registry after a sequence of calls. -/
def resolvedBy (g : Registry) (calls : List Call) : Registry :=
  calls.foldl (fun g call => (g.resolveId call.1 call.2).1) g

/-- The answers to a sequence of calls. -/
def resolveAll (g : Registry) : List Call → List Answer
  | [] => []
  | call :: calls =>
    (g.resolveId call.1 call.2).2 :: resolveAll (g.resolveId call.1 call.2).1 calls

/-- The ids that the calls without an explicit id are answered. -/
def generated (g : Registry) (calls : List Call) : List String :=
  (calls.zip (g.resolveAll calls)).filterMap fun p => if p.1.2.isNone then some p.2.1 else none

/-- The explicit ids of a sequence of calls. -/
def explicit (calls : List Call) : List String :=
  calls.filterMap (·.2)

/-- The ids that a generated id should differ from after a sequence of calls. -/
def taken (g : Registry) (calls : List Call) : List String :=
  g.generated calls ++ if g.unifiesIds then explicit calls else []

/-- The id with a suffix that a name gets if its derived id collides. -/
def suffixedId (hash : HashKind) (name : String) : String :=
  String.ofList ((derivedId name).toList ++ hash.suffix name)

/-- The warning in a file that comes with an answer: one exactly if the id was generated and is not the
derived one. -/
def warningOf (file name : String) (explicitId : Option String) (id : String) : Option Warning :=
  if explicitId = none ∧ id ≠ derivedId name then some ⟨file, name, derivedId name, id⟩ else none

/-! ## One call -/

theorem suffix_ne_nil (hash : HashKind) (name : String) : hash.suffix name ≠ [] := by
  cases hash with
  | fold => exact Nat.toDigits_ne_nil
  | md5 =>
    intro h
    have hl := congrArg List.length h
    rw [HashKind.suffix, List.length_take, Digest.length_md5Hex] at hl
    cases hl

theorem resolveId_none (g : Registry) (name : String) :
    (g.resolveId name none).2.1 =
      if g.collides (derivedId name) then suffixedId g.hash name else derivedId name := by
  unfold resolveId generateId
  simp only
  split <;> rfl

theorem resolveId_file (g : Registry) (name : String) (id : Option String) :
    (g.resolveId name id).1.file = g.file := by
  unfold resolveId generateId
  cases id with
  | some id => rfl
  | none =>
    simp only
    split <;> rfl

theorem resolveId_hash (g : Registry) (name : String) (id : Option String) :
    (g.resolveId name id).1.hash = g.hash := by
  unfold resolveId generateId
  cases id with
  | some id => rfl
  | none =>
    simp only
    split <;> rfl

theorem resolveId_unifiesIds (g : Registry) (name : String) (id : Option String) :
    (g.resolveId name id).1.unifiesIds = g.unifiesIds := by
  unfold resolveId generateId
  cases id with
  | some id => rfl
  | none =>
    simp only
    split <;> rfl

theorem resolveId_generatedIds (g : Registry) (name : String) (id : Option String) :
    (g.resolveId name id).1.generatedIds =
      if id.isNone then (g.resolveId name id).2.1 :: g.generatedIds else g.generatedIds := by
  unfold resolveId generateId
  cases id with
  | some id => rfl
  | none =>
    simp only
    split <;> rfl

theorem resolveId_explicitIds (g : Registry) (name : String) (id : Option String) :
    (g.resolveId name id).1.explicitIds = id.toList ++ g.explicitIds := by
  unfold resolveId generateId
  cases id with
  | some id => rfl
  | none =>
    simp only
    split <;> rfl

theorem resolveId_warning (g : Registry) (name : String) (id : Option String) :
    (g.resolveId name id).2.2 = warningOf g.file name id (g.resolveId name id).2.1 := by
  unfold resolveId generateId warningOf
  cases id with
  | some id => simp
  | none =>
    simp only
    split <;> simp [suffix_ne_nil]

theorem resolveId_names (g : Registry) (names : List String) (name : String) (id : Option String) :
    ({ g with names }.resolveId name id).2 = (g.resolveId name id).2 ∧
      ({ g with names }.resolveId name id).1 = { (g.resolveId name id).1 with names } := by
  unfold resolveId generateId collides
  cases id with
  | some id => exact ⟨rfl, rfl⟩
  | none =>
    simp only
    split <;> exact ⟨rfl, rfl⟩

/-! ## Many calls -/

theorem resolvedBy_cons (g : Registry) (call : Call) (calls : List Call) :
    g.resolvedBy (call :: calls) = (g.resolveId call.1 call.2).1.resolvedBy calls := rfl

@[simp] theorem resolvedBy_hash (g : Registry) (calls : List Call) :
    (g.resolvedBy calls).hash = g.hash := by
  induction calls generalizing g with
  | nil => rfl
  | cons call calls ih => rw [resolvedBy_cons, ih, resolveId_hash]

@[simp] theorem resolvedBy_unifiesIds (g : Registry) (calls : List Call) :
    (g.resolvedBy calls).unifiesIds = g.unifiesIds := by
  induction calls generalizing g with
  | nil => rfl
  | cons call calls ih => rw [resolvedBy_cons, ih, resolveId_unifiesIds]

theorem generated_cons (g : Registry) (call : Call) (calls : List Call) :
    g.generated (call :: calls) =
      (if call.2.isNone then [(g.resolveId call.1 call.2).2.1] else []) ++
        (g.resolveId call.1 call.2).1.generated calls := by
  obtain ⟨name, _ | id⟩ := call <;> simp [generated, resolveAll]

theorem resolvedBy_generatedIds (g : Registry) (calls : List Call) :
    (g.resolvedBy calls).generatedIds = (g.generated calls).reverse ++ g.generatedIds := by
  induction calls generalizing g with
  | nil => rfl
  | cons call calls ih =>
    rw [resolvedBy_cons, ih, resolveId_generatedIds, generated_cons]
    obtain ⟨name, _ | id⟩ := call <;> simp

theorem resolvedBy_explicitIds (g : Registry) (calls : List Call) :
    (g.resolvedBy calls).explicitIds = (explicit calls).reverse ++ g.explicitIds := by
  induction calls generalizing g with
  | nil => rfl
  | cons call calls ih =>
    rw [resolvedBy_cons, ih, resolveId_explicitIds]
    obtain ⟨name, _ | id⟩ := call <;> simp [explicit]

/-- The answers to two sequences of calls in a row. -/
theorem resolveAll_append (g : Registry) (calls calls' : List Call) :
    g.resolveAll (calls ++ calls') = g.resolveAll calls ++ (g.resolvedBy calls).resolveAll calls' := by
  induction calls generalizing g with
  | nil => rfl
  | cons call calls ih =>
    rw [List.cons_append, resolveAll, ih]
    rfl

theorem length_resolveAll (g : Registry) (calls : List Call) :
    (g.resolveAll calls).length = calls.length := by
  induction calls generalizing g with
  | nil => rfl
  | cons call calls ih => rw [resolveAll, List.length_cons, List.length_cons, ih]

theorem generated_append (g : Registry) (calls calls' : List Call) :
    g.generated (calls ++ calls') = g.generated calls ++ (g.resolvedBy calls).generated calls' := by
  unfold generated
  rw [resolveAll_append, List.zip_append (g.length_resolveAll calls).symm, List.filterMap_append]

/-- A name that is only claimed does not matter. -/
theorem resolveAll_names (g : Registry) (names : List String) (calls : List Call) :
    { g with names }.resolveAll calls = g.resolveAll calls := by
  induction calls generalizing g with
  | nil => rfl
  | cons call calls ih =>
    obtain ⟨h₂, h₁⟩ := resolveId_names g names call.1 call.2
    rw [resolveAll, resolveAll, h₂, h₁, ih]

/-! ## Ids that were given before -/

/-- **A derived id collides exactly if it is taken.** -/
theorem collides_resolvedBy_iff {file : String} {hash : HashKind} {unifiesIds : Bool} {calls : List Call}
    {id : String} :
    ((empty file hash unifiesIds).resolvedBy calls).collides id = true ↔
      id ∈ (empty file hash unifiesIds).taken calls := by
  unfold collides taken
  rw [resolvedBy_generatedIds, resolvedBy_explicitIds, resolvedBy_unifiesIds]
  cases unifiesIds <;> simp [empty]

/-- The id that a name without an explicit one gets after a sequence of calls. -/
def nextId (g : Registry) (calls : List Call) (name : String) : String :=
  ((g.resolvedBy calls).resolveId name none).2.1

theorem nextId_eq (file : String) (hash : HashKind) (unifiesIds : Bool) (calls : List Call) (name : String) :
    (empty file hash unifiesIds).nextId calls name =
      if derivedId name ∈ (empty file hash unifiesIds).taken calls then suffixedId hash name
      else derivedId name := by
  unfold nextId
  rw [resolveId_none, resolvedBy_hash]
  simp only [collides_resolvedBy_iff]
  rfl

/-- **A generated id is among some of the taken ids exactly if the derived id is taken and the suffixed
id is among them**: the suffixed id is not looked up again. -/
theorem nextId_mem_iff {file : String} {hash : HashKind} {unifiesIds : Bool} {calls : List Call} {name : String}
    {ids : List String} (h : ∀ id ∈ ids, id ∈ (empty file hash unifiesIds).taken calls) :
    (empty file hash unifiesIds).nextId calls name ∈ ids ↔
      derivedId name ∈ (empty file hash unifiesIds).taken calls ∧ suffixedId hash name ∈ ids := by
  rw [nextId_eq]
  by_cases hd : derivedId name ∈ (empty file hash unifiesIds).taken calls
  · rw [if_pos hd, and_iff_right hd]
  · rw [if_neg hd]
    exact ⟨fun hm => absurd (h _ hm) hd, fun hm => absurd hm.1 hd⟩

theorem generated_concat (g : Registry) (calls : List Call) (call : Call) :
    g.generated (calls ++ [call]) =
      g.generated calls ++ if call.2 = none then [g.nextId calls call.1] else [] := by
  rw [generated_append, generated_cons]
  obtain ⟨name, _ | id⟩ := call <;> rfl

/-- The generated ids are different from each other exactly if each differs from those before it. -/
theorem nodup_generated_iff {g : Registry} {calls : List Call} :
    (g.generated calls).Nodup ↔
      ∀ earlier name later, calls = earlier ++ (name, none) :: later →
        g.nextId earlier name ∉ g.generated earlier := by
  induction calls using List.reverseRecOn with
  | nil =>
    refine ⟨fun _ earlier name later h => ?_, fun _ => List.nodup_nil⟩
    cases earlier <;> cases h
  | append_singleton calls call ih =>
    rw [generated_concat, List.nodup_append, ih]
    constructor
    · rintro ⟨hc, -, hn⟩ earlier name later h
      rcases later.eq_nil_or_concat with rfl | ⟨later, last, rfl⟩
      · obtain ⟨rfl, hl⟩ := List.append_inj' h rfl
        obtain rfl := List.singleton_inj.mp hl
        intro hm
        exact hn _ hm _ (by simp) rfl
      · rw [List.concat_eq_append, ← List.cons_append, ← List.append_assoc] at h
        exact hc earlier name later (List.append_inj' h rfl).1
    · intro h
      refine ⟨fun earlier name later hc => h earlier name (later ++ [call]) (by simp [hc]), ?_, ?_⟩
      · split <;> simp
      · obtain ⟨name, _ | id⟩ := call
        · intro id hid id' hid'
          rw [List.mem_singleton.mp hid']
          rintro rfl
          exact h calls name [] rfl hid
        · simp

end StoryCatalog.Registry
