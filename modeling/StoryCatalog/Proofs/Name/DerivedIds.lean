import StoryCatalog.Name.Id
import StoryCatalog.Proofs.Text.Ascii

/-!
# Three ways to derive an id

The id of a name is put together from the runs of the name. It can be read off in one pass as well, which drops
other characters and remembers whether the last character was dropped, and it is what a search finds that replaces
each stretch of other characters, with the character after it or the end of the name, by that character in upper
case. The search prefers long stretches to short ones, so what it takes is followed by a word character or by
nothing, and a line feed is never what it captures.

* `deriveId_eq_camel`: the one pass.
* `replaceStretches_eq_camel`: the search.
* `isWordChar_of_mem_deriveId`, `deriveId_deriveId`: an id holds word characters, and is its own id.
-/

namespace StoryCatalog.Name

open Text

variable {c d : Char} {cs : List Char}

/-! ## One pass -/

/-- A word character is kept, in upper case if one was dropped just before it; another character is dropped. -/
def keepWordChar (s : List Char × Bool) (c : Char) : List Char × Bool :=
  if isWordChar c then (s.1 ++ [if s.2 then c.toUpper else c], false) else (s.1, true)

/-- What one pass keeps of a text, where `dropped` tells whether a character was dropped just before it. -/
def camel (dropped : Bool) (cs : List Char) : List Char :=
  (cs.foldl keepWordChar ([], dropped)).1

theorem foldl_keepWordChar (kept : List Char) (dropped : Bool) (cs : List Char) :
    (cs.foldl keepWordChar (kept, dropped)).1 = kept ++ camel dropped cs := by
  induction cs generalizing kept dropped with
  | nil => simp [camel]
  | cons c cs ih =>
    rw [camel, List.foldl_cons, List.foldl_cons, keepWordChar, keepWordChar]
    split
    · rw [ih, ih, List.nil_append, List.append_assoc]
    · rw [ih, ih, List.nil_append]

@[simp] theorem camel_nil (dropped : Bool) : camel dropped [] = [] := rfl

theorem camel_cons_of_word (h : isWordChar c = true) (dropped : Bool) (cs : List Char) :
    camel dropped (c :: cs) = (if dropped then c.toUpper else c) :: camel false cs := by
  rw [camel, List.foldl_cons, keepWordChar, if_pos h, foldl_keepWordChar]
  rfl

theorem camel_cons_of_other (h : isWordChar c = false) (dropped : Bool) (cs : List Char) :
    camel dropped (c :: cs) = camel true cs := by
  rw [camel, List.foldl_cons, keepWordChar, h, if_neg Bool.false_ne_true, camel]

/-! ## Word characters -/

theorem isAscii_of_isWordChar (h : isWordChar c = true) : isAscii c = true := by
  rw [isWordChar, Bool.or_eq_true, beq_iff_eq] at h
  rcases h with h | rfl
  · exact isAscii_of_isAlphanum h
  · decide

theorem isWordChar_toUpper (h : isWordChar c = true) : isWordChar c.toUpper = true := by
  refine forall_ascii (P := fun c => isWordChar c = true → isWordChar c.toUpper = true) ?_
    (isAscii_of_isWordChar h) h
  decide

theorem isWordChar_of_mem_camel {dropped : Bool} (h : c ∈ camel dropped cs) : isWordChar c = true := by
  induction cs generalizing dropped with
  | nil => cases h
  | cons d cs ih =>
    cases hd : isWordChar d with
    | false =>
      rw [camel_cons_of_other hd] at h
      exact ih h
    | true =>
      rw [camel_cons_of_word hd] at h
      rcases List.mem_cons.mp h with rfl | h
      · split
        · exact isWordChar_toUpper hd
        · exact hd
      · exact ih h

/-- A text of word characters is kept as it is. -/
theorem camel_of_words (h : ∀ c ∈ cs, isWordChar c = true) : camel false cs = cs := by
  induction cs with
  | nil => rfl
  | cons c cs ih =>
    obtain ⟨hc, hcs⟩ := List.forall_mem_cons.mp h
    rw [camel_cons_of_word hc, ih hcs]
    rfl

/-! ## Runs -/

/-- The runs of a text begin with a run that begins as the text does. -/
theorem exists_runs_cons (c : Char) (cs : List Char) : ∃ run rest, runs (c :: cs) = (c :: run) :: rest := by
  rw [runs]
  split
  · split
    · exact ⟨_, _, rfl⟩
    · exact ⟨_, _, rfl⟩
  · exact ⟨_, _, rfl⟩

/-- The word runs among some runs, with a capital after a dropped run. -/
def spellRuns (dropped : Bool) : List (List Char) → List Char
  | [] => []
  | first :: rest =>
    (if isWordRun first then if dropped then capitalize first else first else []) ++
      (rest.filter isWordRun).flatMap capitalize

theorem isWordRun_cons (c : Char) (run : List Char) : isWordRun (c :: run) = isWordChar c := rfl

theorem capitalize_of_word (h : isWordChar c = true) (run : List Char) : capitalize (c :: run) = c.toUpper :: run := by
  rw [capitalize, upperChar_of_ascii (isAscii_of_isWordChar h), List.singleton_append]

/-- **The runs of a text and one pass over it spell the same.** -/
theorem spellRuns_runs (dropped : Bool) (cs : List Char) : spellRuns dropped (runs cs) = camel dropped cs := by
  induction cs generalizing dropped with
  | nil => rfl
  | cons c cs ih =>
    cases cs with
    | nil =>
      cases hc : isWordChar c with
      | true =>
        rw [camel_cons_of_word hc, camel_nil]
        cases dropped <;> simp [runs, spellRuns, isWordRun_cons, hc, capitalize_of_word]
      | false =>
        rw [camel_cons_of_other hc, camel_nil]
        simp [runs, spellRuns, isWordRun_cons, hc]
    | cons d ds =>
      obtain ⟨run, rest, hruns⟩ := exists_runs_cons d ds
      have ih' := fun dropped => (ih dropped).symm
      rw [hruns] at ih'
      cases hc : isWordChar c with
      | true =>
        rw [camel_cons_of_word hc, ih', runs, hruns]
        cases hd : isWordChar d <;> cases dropped <;>
          simp [spellRuns, isWordRun_cons, hc, hd, capitalize_of_word]
      | false =>
        rw [camel_cons_of_other hc, ih', runs, hruns]
        cases hd : isWordChar d <;> simp [spellRuns, isWordRun_cons, hc, hd, capitalize_of_word]

theorem deriveId_eq_spellRuns (name : List Char) : deriveId name = spellRuns false (runs name) := by
  rw [deriveId]
  split
  · next h => rw [h]; rfl
  · next h => rw [h]; rfl

/-- **The id of a name is what one pass keeps.** -/
theorem deriveId_eq_camel (name : List Char) : deriveId name = camel false name := by
  rw [deriveId_eq_spellRuns, spellRuns_runs]

theorem isWordChar_of_mem_deriveId {name : List Char} (h : c ∈ deriveId name) : isWordChar c = true := by
  rw [deriveId_eq_camel] at h
  exact isWordChar_of_mem_camel h

theorem deriveId_deriveId (name : List Char) : deriveId (deriveId name) = deriveId name := by
  rw [deriveId_eq_camel (deriveId name)]
  exact camel_of_words fun _ => isWordChar_of_mem_deriveId

/-! ## The search -/

/-- The ways in which a text begins with the closing of a stretch, the preferred one first: any character but a
line feed, or the end of the text. Each is given as what is captured and the text that follows. -/
def closings : List Char → List (List Char × List Char)
  | [] => [([], [])]
  | c :: cs => if c = '\n' then [] else [([c], cs)]

/-- The ways in which a text begins with a stretch: some other characters, as many as can be, and a closing. -/
def stretches : List Char → List (List Char × List Char)
  | [] => []
  | c :: cs => if isWordChar c then [] else stretches cs ++ closings cs

theorem length_le_of_mem_closings {p : List Char × List Char} (h : p ∈ closings cs) : p.2.length ≤ cs.length := by
  cases cs with
  | nil =>
    obtain rfl := List.mem_singleton.mp h
    exact Nat.le_refl 0
  | cons c cs =>
    rw [closings] at h
    split at h
    · cases h
    · rw [List.mem_singleton.mp h]
      exact Nat.le_succ _

theorem length_lt_of_mem_stretches {p : List Char × List Char} (h : p ∈ stretches cs) : p.2.length < cs.length := by
  induction cs with
  | nil => cases h
  | cons c cs ih =>
    rw [stretches] at h
    split at h
    · cases h
    · refine Nat.lt_succ_of_le ?_
      rcases List.mem_append.mp h with h | h
      · exact Nat.le_of_lt (ih h)
      · exact length_le_of_mem_closings h

/-- The text with each stretch, found from left to right, replaced by what it captures in upper case. -/
def replaceStretches : List Char → List Char
  | [] => []
  | c :: cs =>
    match _h : stretches (c :: cs) with
    | [] => c :: replaceStretches cs
    | p :: _ => p.1.flatMap upperChar ++ replaceStretches p.2
termination_by cs => cs.length
decreasing_by
  · exact Nat.lt_succ_self _
  · exact length_lt_of_mem_stretches (_h ▸ List.mem_cons_self)

/-- The longest stretch, after its first character: the next word character is captured, or the end. -/
def longest : List Char → List Char × List Char
  | [] => ([], [])
  | d :: ds => if isWordChar d then ([d], ds) else longest ds

/-- **The stretch that is found is the longest one**: a shorter one could capture no word character. -/
theorem exists_stretches_eq (hc : isWordChar c = false) (cs : List Char) :
    ∃ others, stretches (c :: cs) = longest cs :: others := by
  induction cs generalizing c with
  | nil => exact ⟨[], by rw [stretches, hc, if_neg Bool.false_ne_true]; rfl⟩
  | cons d ds ih =>
    rw [stretches, hc, if_neg Bool.false_ne_true, longest]
    cases hd : isWordChar d with
    | true =>
      have hfeed : d ≠ '\n' := by
        rintro rfl
        exact absurd hd (by decide)
      exact ⟨[], by rw [stretches, hd, if_pos rfl, closings, if_neg hfeed, if_pos rfl]; rfl⟩
    | false =>
      obtain ⟨others, h⟩ := ih hd
      exact ⟨others ++ closings (d :: ds), by rw [h, if_neg Bool.false_ne_true, List.cons_append]⟩

theorem stretches_eq_nil_iff : stretches (c :: cs) = [] ↔ isWordChar c = true := by
  cases hc : isWordChar c with
  | true => exact iff_of_true (by rw [stretches, hc, if_pos rfl]) rfl
  | false =>
    obtain ⟨others, hfound⟩ := exists_stretches_eq hc cs
    exact iff_of_false (hfound ▸ List.cons_ne_nil _ _) Bool.false_ne_true

theorem longest_spec (cs : List Char) :
    (longest cs).1.flatMap upperChar ++ camel false (longest cs).2 = camel true cs := by
  induction cs with
  | nil => rfl
  | cons d ds ih =>
    rw [longest]
    cases hd : isWordChar d with
    | true =>
      rw [if_pos rfl, camel_cons_of_word hd, List.flatMap_singleton, upperChar_of_ascii (isAscii_of_isWordChar hd)]
      rfl
    | false => rw [if_neg Bool.false_ne_true, camel_cons_of_other hd, ih]

/-- **The search gives what one pass keeps.** -/
theorem replaceStretches_eq_camel (cs : List Char) : replaceStretches cs = camel false cs := by
  fun_induction replaceStretches cs with
  | case1 => rfl
  | case2 c cs hnone ih =>
    rw [camel_cons_of_word (stretches_eq_nil_iff.mp hnone), ih]
    rfl
  | case3 c cs p others hsome ih =>
    have hfound : stretches (c :: cs) ≠ [] := hsome ▸ List.cons_ne_nil p others
    have hc : isWordChar c = false := Bool.eq_false_iff.mpr (mt stretches_eq_nil_iff.mpr hfound)
    obtain ⟨others', hlongest⟩ := exists_stretches_eq hc cs
    rw [hsome] at hlongest
    obtain ⟨rfl, -⟩ := List.cons.inj hlongest
    rw [ih, longest_spec, camel_cons_of_other hc]

end StoryCatalog.Name
