import StoryCatalog.Proofs.Story.Identities

/-!
# What a registry answers, told by what it has answered

A registry serves requests of three kinds: claims of names, claims of export names, and calls for ids.
It answers them one after the other; a claim that is refused leaves it as it was. What it knows is what
the transcript of the requests and replies tells, so every reply can be read off the transcript alone,
and the replies of one kind do not depend on the requests of the others.

* `Knows.serve`, `knows_transcript`: a registry knows what the transcript tells, after one request and
  after any history.
* `transcript_ofKind`: the requests of one kind are answered as if there were no others.
* `replies_of_history`: what is answered after a history.
-/

namespace StoryCatalog.Registry

/-- A request to a registry. -/
inductive Request where
  | claimName (name : String)
  | claimExportName (name : String)
  | resolveId (name : String) (explicitId : Option String)
deriving DecidableEq, Repr

/-- The answer to a request: a claim is granted or refused, an id comes with its warning. -/
inductive Reply where
  | granted
  | refused (failure : Failure)
  | resolved (id : String) (warning : Option Warning)
deriving DecidableEq, Repr

/-- The reply to a claim. -/
def Reply.ofClaim : Except Failure Unit → Reply
  | .ok () => .granted
  | .error f => .refused f

/-- The registry after a request and the reply. -/
def serve (g : Registry) : Request → Registry × Reply
  | .claimName name => ((g.claimName name).1, .ofClaim (g.claimName name).2)
  | .claimExportName name => ((g.claimExportName name).1, .ofClaim (g.claimExportName name).2)
  | .resolveId name explicitId =>
    ((g.resolveId name explicitId).1,
      .resolved (g.resolveId name explicitId).2.1 (g.resolveId name explicitId).2.2)

/-- The registry after a history of requests. -/
def after (g : Registry) (history : List Request) : Registry :=
  history.foldl (fun g request => (g.serve request).1) g

/-- The requests of a history, each with its reply. -/
def transcript (g : Registry) : List Request → List (Request × Reply)
  | [] => []
  | request :: later => (request, (g.serve request).2) :: transcript (g.serve request).1 later

@[simp] theorem after_cons (g : Registry) (request : Request) (later : List Request) :
    g.after (request :: later) = (g.serve request).1.after later := rfl

/-! ## One request -/

theorem serve_claimName (g : Registry) (name : String) :
    g.serve (.claimName name) =
      if name ∈ g.names then (g, .refused (.duplicateStoryName g.file name))
      else ({ g with names := name :: g.names }, .granted) := by
  rw [serve, claimName]
  split <;> rfl

theorem serve_claimExportName (g : Registry) (name : String) :
    g.serve (.claimExportName name) =
      if name ∈ g.exportNames then (g, .refused (.duplicateExportName g.file name))
      else ({ g with exportNames := name :: g.exportNames }, .granted) := by
  rw [serve, claimExportName]
  split <;> rfl

theorem serve_resolveId_some (g : Registry) (name id : String) :
    g.serve (.resolveId name (some id)) =
      ({ g with explicitIds := id :: g.explicitIds }, .resolved id none) := rfl

theorem serve_resolveId_none (g : Registry) (name : String) :
    g.serve (.resolveId name none) =
      if g.collides (derivedId name) then
        ({ g with generatedIds := suffixedId g.hash name :: g.generatedIds },
          .resolved (suffixedId g.hash name)
            (some ⟨g.file, name, derivedId name, suffixedId g.hash name⟩))
      else ({ g with generatedIds := derivedId name :: g.generatedIds },
        .resolved (derivedId name) none) := by
  simp only [serve, resolveId, generateId]
  split <;> rfl

theorem serve_file (g : Registry) (request : Request) : (g.serve request).1.file = g.file := by
  cases request with
  | claimName name => rw [serve_claimName]; split <;> rfl
  | claimExportName name => rw [serve_claimExportName]; split <;> rfl
  | resolveId name id => exact resolveId_file g name id

theorem serve_hash (g : Registry) (request : Request) : (g.serve request).1.hash = g.hash := by
  cases request with
  | claimName name => rw [serve_claimName]; split <;> rfl
  | claimExportName name => rw [serve_claimExportName]; split <;> rfl
  | resolveId name id => exact resolveId_hash g name id

theorem serve_unifiesIds (g : Registry) (request : Request) :
    (g.serve request).1.unifiesIds = g.unifiesIds := by
  cases request with
  | claimName name => rw [serve_claimName]; split <;> rfl
  | claimExportName name => rw [serve_claimExportName]; split <;> rfl
  | resolveId name id => exact resolveId_unifiesIds g name id

@[simp] theorem after_file (g : Registry) (history : List Request) :
    (g.after history).file = g.file := by
  induction history generalizing g with
  | nil => rfl
  | cons request later ih => rw [after_cons, ih, serve_file]

@[simp] theorem after_hash (g : Registry) (history : List Request) :
    (g.after history).hash = g.hash := by
  induction history generalizing g with
  | nil => rfl
  | cons request later ih => rw [after_cons, ih, serve_hash]

@[simp] theorem after_unifiesIds (g : Registry) (history : List Request) :
    (g.after history).unifiesIds = g.unifiesIds := by
  induction history generalizing g with
  | nil => rfl
  | cons request later ih => rw [after_cons, ih, serve_unifiesIds]

/-- A refused claim leaves the registry as it was. -/
theorem serve_refused {g : Registry} {request : Request} {f : Failure}
    (h : (g.serve request).2 = .refused f) : (g.serve request).1 = g := by
  cases request with
  | claimName name =>
    rw [serve_claimName] at h ⊢
    split at h
    · rename_i hmem
      rw [if_pos hmem]
    · cases h
  | claimExportName name =>
    rw [serve_claimExportName] at h ⊢
    split at h
    · rename_i hmem
      rw [if_pos hmem]
    · cases h
  | resolveId name id => cases h

/-! ## What a registry knows -/

/-- The registry knows exactly the names, the export names and the ids that a transcript tells. -/
structure Knows (g : Registry) (told : List (Request × Reply)) : Prop where
  names : ∀ n, n ∈ g.names ↔ (Request.claimName n, Reply.granted) ∈ told
  exportNames : ∀ n, n ∈ g.exportNames ↔ (Request.claimExportName n, Reply.granted) ∈ told
  generatedIds : ∀ id, id ∈ g.generatedIds ↔
    ∃ n c, (Request.resolveId n none, Reply.resolved id c) ∈ told
  explicitIds : ∀ id, id ∈ g.explicitIds ↔
    ∃ n reply, (Request.resolveId n (some id), reply) ∈ told

theorem knows_empty (file : String) (hash : HashKind) (unifiesIds : Bool) :
    (empty file hash unifiesIds).Knows [] := by
  constructor <;> simp [empty]

/-- **One request**: after it the registry knows what was told before, and the reply. -/
theorem Knows.serve {g : Registry} {told : List (Request × Reply)} (h : g.Knows told)
    (request : Request) :
    (g.serve request).1.Knows (told ++ [(request, (g.serve request).2)]) := by
  cases request with
  | claimName name =>
    rw [serve_claimName]
    split
    · constructor <;> simp [h.names, h.exportNames, h.generatedIds, h.explicitIds]
    · constructor <;> simp [h.names, h.exportNames, h.generatedIds, h.explicitIds, or_comm]
  | claimExportName name =>
    rw [serve_claimExportName]
    split
    · constructor <;> simp [h.names, h.exportNames, h.generatedIds, h.explicitIds]
    · constructor <;> simp [h.names, h.exportNames, h.generatedIds, h.explicitIds, or_comm]
  | resolveId name id =>
    cases id with
    | some id =>
      rw [serve_resolveId_some]
      constructor <;>
        simp [h.names, h.exportNames, h.generatedIds, h.explicitIds, exists_or, or_comm]
    | none =>
      rw [serve_resolveId_none]
      split
      · constructor <;>
          simp [h.names, h.exportNames, h.generatedIds, h.explicitIds, exists_or, or_comm]
      · constructor <;>
          simp [h.names, h.exportNames, h.generatedIds, h.explicitIds, exists_or, or_comm]

theorem Knows.after {g : Registry} {told : List (Request × Reply)} (h : g.Knows told)
    (history : List Request) : (g.after history).Knows (told ++ g.transcript history) := by
  induction history generalizing g told with
  | nil =>
    rw [transcript, List.append_nil]
    exact h
  | cons request later ih =>
    rw [transcript, after_cons, ← List.singleton_append, ← List.append_assoc]
    exact ih (h.serve request)

/-- **Any history**: a registry knows what the transcript tells. -/
theorem knows_transcript (file : String) (hash : HashKind) (unifiesIds : Bool) (history : List Request) :
    ((empty file hash unifiesIds).after history).Knows ((empty file hash unifiesIds).transcript history) :=
  (knows_empty file hash unifiesIds).after history

/-- A derived id has been used: it has been generated, or given explicitly where that counts. -/
def Used (unifiesIds : Bool) (told : List (Request × Reply)) (id : String) : Prop :=
  (∃ n c, (Request.resolveId n none, Reply.resolved id c) ∈ told) ∨
    unifiesIds = true ∧ ∃ n reply, (Request.resolveId n (some id), reply) ∈ told

theorem Knows.collides_iff {g : Registry} {told : List (Request × Reply)} (h : g.Knows told)
    (id : String) : g.collides id = true ↔ Used g.unifiesIds told id := by
  unfold collides Used
  rw [← h.generatedIds, ← h.explicitIds, Bool.or_eq_true, Bool.and_eq_true, List.contains_iff_mem,
    List.contains_iff_mem]

/-! ## Requests of one kind -/

/-- What a request asks for. -/
inductive Kind where
  | name
  | exportName
  | id
deriving DecidableEq, Repr

/-- The kind of a request. -/
def Request.kind : Request → Kind
  | .claimName _ => .name
  | .claimExportName _ => .exportName
  | .resolveId _ _ => .id

/-- Two registries know the same as far as requests of one kind go. -/
def Alike : Kind → Registry → Registry → Prop
  | .name, g, g' => g.file = g'.file ∧ g.names = g'.names
  | .exportName, g, g' => g.file = g'.file ∧ g.exportNames = g'.exportNames
  | .id, g, g' => g.file = g'.file ∧ g.hash = g'.hash ∧ g.unifiesIds = g'.unifiesIds ∧
      g.generatedIds = g'.generatedIds ∧ g.explicitIds = g'.explicitIds

theorem alike_refl (k : Kind) (g : Registry) : Alike k g g := by
  cases k with
  | name | exportName => exact ⟨rfl, rfl⟩
  | id => exact ⟨rfl, rfl, rfl, rfl, rfl⟩

/-- A request of another kind leaves what requests of this kind depend on. -/
theorem alike_serve_left {k : Kind} {g g' : Registry} {request : Request}
    (hk : request.kind ≠ k) (h : Alike k g g') : Alike k (g.serve request).1 g' := by
  cases request with
  | claimName name =>
    rw [serve_claimName]
    cases k with
    | name => exact absurd rfl hk
    | exportName | id => split <;> exact h
  | claimExportName name =>
    rw [serve_claimExportName]
    cases k with
    | exportName => exact absurd rfl hk
    | name | id => split <;> exact h
  | resolveId name id =>
    cases k with
    | id => exact absurd rfl hk
    | name | exportName =>
      cases id with
      | some id => exact h
      | none =>
        rw [serve_resolveId_none]
        split <;> exact h

/-- Registries that are alike for the kind of a request give it the same reply, and stay alike. -/
theorem alike_serve {g g' : Registry} {request : Request} (h : Alike request.kind g g') :
    (g.serve request).2 = (g'.serve request).2 ∧
      Alike request.kind (g.serve request).1 (g'.serve request).1 := by
  cases request with
  | claimName name =>
    obtain ⟨file, names⟩ := h
    rw [serve_claimName, serve_claimName, file, names]
    split
    · exact ⟨rfl, file, names⟩
    · exact ⟨rfl, rfl, rfl⟩
  | claimExportName name =>
    obtain ⟨file, names⟩ := h
    rw [serve_claimExportName, serve_claimExportName, file, names]
    split
    · exact ⟨rfl, file, names⟩
    · exact ⟨rfl, rfl, rfl⟩
  | resolveId name id =>
    obtain ⟨file, hash, unifies, generated, explicit⟩ := h
    cases id with
    | some id => exact ⟨rfl, file, hash, unifies, generated, congrArg (id :: ·) explicit⟩
    | none =>
      have collide : g.collides (derivedId name) = g'.collides (derivedId name) := by
        rw [collides, collides, unifies, generated, explicit]
      rw [serve_resolveId_none, serve_resolveId_none, collide, file, hash, generated]
      split <;> exact ⟨rfl, rfl, rfl, unifies, rfl, explicit⟩

/-- **The requests of one kind are answered as if there were no others.** -/
theorem transcript_ofKind (k : Kind) {g g' : Registry} (h : Alike k g g') (history : List Request) :
    (g.transcript history).filter (·.1.kind = k) =
      g'.transcript (history.filter (·.kind = k)) := by
  induction history generalizing g g' with
  | nil => rfl
  | cons request later ih =>
    rw [transcript, List.filter_cons, List.filter_cons]
    by_cases hk : request.kind = k
    · subst hk
      obtain ⟨reply, alike⟩ := alike_serve h
      simp only [decide_true, if_true, transcript, reply, ih alike]
    · simp only [hk, decide_false, Bool.false_eq_true, if_false]
      exact ih (alike_serve_left hk h)

/-- **What a registry answers after a history.** A claim is refused exactly if the same claim has been
granted before, and is granted otherwise. An explicit id is taken as it is. Otherwise the id is the
derived one, without a warning, exactly if this has neither been generated before nor, where that
counts, been given explicitly; and if it has, the id is the derived one with the suffix of the name,
and the warning names the file, the name and both ids, as a refusal names the file. A refused claim
changes no later reply, and the requests of each kind are answered as if there were no others. -/
theorem replies_of_history (file : String) (hash : HashKind) (unifiesIds : Bool) (history : List Request) :
    let g := (empty file hash unifiesIds).after history
    let told := (empty file hash unifiesIds).transcript history
    (∀ n, (g.serve (.claimName n)).2 =
      if (Request.claimName n, Reply.granted) ∈ told then .refused (.duplicateStoryName file n)
      else .granted) ∧
    (∀ n, (g.serve (.claimExportName n)).2 =
      if (Request.claimExportName n, Reply.granted) ∈ told then .refused (.duplicateExportName file n)
      else .granted) ∧
    (∀ n id, (g.serve (.resolveId n (some id))).2 = .resolved id none) ∧
    (∀ n, ((g.serve (.resolveId n none)).2 = .resolved (derivedId n) none ↔
        ¬Used unifiesIds told (derivedId n)) ∧
      (Used unifiesIds told (derivedId n) → (g.serve (.resolveId n none)).2 =
        .resolved (suffixedId hash n) (some ⟨file, n, derivedId n, suffixedId hash n⟩))) ∧
    (∀ claim failure later, (g.serve claim).2 = .refused failure →
      (g.serve claim).1.transcript later = g.transcript later) ∧
    ∀ k, told.filter (·.1.kind = k) =
      (empty file hash unifiesIds).transcript (history.filter (·.kind = k)) := by
  intro g told
  have known : g.Knows told := knows_transcript file hash unifiesIds history
  have file_eq : g.file = file := after_file _ history
  have hash_eq : g.hash = hash := after_hash _ history
  have unifies_eq : g.unifiesIds = unifiesIds := after_unifiesIds _ history
  have generated : ∀ n, (g.serve (.resolveId n none)).2 =
      if g.collides (derivedId n) then
        .resolved (suffixedId hash n) (some ⟨file, n, derivedId n, suffixedId hash n⟩)
      else .resolved (derivedId n) none := by
    intro n
    rw [serve_resolveId_none, hash_eq, file_eq]
    split <;> rfl
  refine ⟨?names, ?exportNames, fun _ _ => rfl, ?ids, ?refused,
    fun k => transcript_ofKind k (alike_refl k _) history⟩
  case names =>
    intro n
    rw [serve_claimName, file_eq]
    simp only [← known.names]
    split <;> rfl
  case exportNames =>
    intro n
    rw [serve_claimExportName, file_eq]
    simp only [← known.exportNames]
    split <;> rfl
  case ids =>
    intro n
    rw [← unifies_eq, ← known.collides_iff, generated]
    constructor
    · by_cases hc : g.collides (derivedId n) = true
      · simp [hc]
      · simp [hc]
    · intro hc
      rw [if_pos hc]
  case refused =>
    intro claim failure later h
    rw [serve_refused h]

/-- A name that is claimed twice, an export name of the same text, and an explicit id. -/
def mixedHistory : List Request :=
  [.claimName "A", .resolveId "x" (some "A"), .claimName "A", .claimExportName "A"]

/-- Where explicit ids count, the second claim of the name changes nothing, and the derived id of the
name has been used. -/
theorem replies_of_mixedHistory :
    let g := (empty "f" .fold true).after mixedHistory
    (g.serve (.claimName "A")).2 = .refused (.duplicateStoryName "f" "A") ∧
    (g.serve (.claimExportName "B")).2 = .granted ∧
    (g.serve (.resolveId "A" none)).2 =
      .resolved (suffixedId .fold "A") (some ⟨"f", "A", derivedId "A", suffixedId .fold "A"⟩) ∧
    ∀ later, (g.serve (.claimName "A")).1.transcript later = g.transcript later := by
  obtain ⟨names, exportNames, -, ids, refused, -⟩ := replies_of_history "f" .fold true mixedHistory
  have again := names "A"
  have other := exportNames "B"
  rw [if_pos (by decide)] at again
  rw [if_neg (by decide)] at other
  have used : Used true ((empty "f" .fold true).transcript mixedHistory) (derivedId "A") :=
    .inr ⟨rfl, "x", .resolved "A" none, by decide⟩
  exact ⟨again, other, (ids "A").2 used, fun later => refused _ _ later again⟩

end StoryCatalog.Registry
