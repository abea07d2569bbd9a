import StoryCatalog.Proofs.Digest.FoldSums
import StoryCatalog.Proofs.Name.DerivedIds
import StoryCatalog.Proofs.Story.Identities

/-!
# Which characters a generated id holds

A generated id is the derived one, or the derived one and a suffix. The derived id holds word characters only, and a
suffix hexadecimal digits, so an id that is generated can be derived from a name again, and from itself.

* `mem_hexDigits_of_mem_suffix`, `length_suffix_fold`, `length_suffix_md5`: what a suffix looks like.
* `toList_resolveId`: the characters of a generated id.
* `generatedIds_hold_wordChars`: derived ids, suffixes and generated ids of all names.
-/

namespace StoryCatalog.Registry

variable {d : Char} {hash : HashKind} {name : String}

/-! ## Suffixes -/

theorem mem_hexDigits_of_mem_suffix (h : d ∈ hash.suffix name) : d ∈ Digest.hexDigits := by
  cases hash with
  | fold => exact (Digest.isHexNumeral_foldHex name.toList).digits d h
  | md5 => exact Digest.mem_hexDigits_of_mem_md5Hex (List.mem_of_mem_take h)

theorem length_suffix_fold (name : String) :
    1 ≤ (HashKind.fold.suffix name).length ∧ (HashKind.fold.suffix name).length ≤ 8 :=
  ⟨List.length_pos_of_ne_nil (suffix_ne_nil .fold name), Digest.length_foldHex_le name.toList⟩

theorem length_suffix_md5 (name : String) : (HashKind.md5.suffix name).length = 8 := by
  rw [HashKind.suffix, List.length_take, Digest.length_md5Hex]
  rfl

theorem isWordChar_of_mem_hexDigits (h : d ∈ Digest.hexDigits) : Name.isWordChar d = true := by
  have hall : Digest.hexDigits.all Name.isWordChar = true := by decide
  exact List.all_eq_true.mp hall d h

/-! ## Generated ids -/

theorem toList_derivedId (name : String) : (derivedId name).toList = Name.deriveId name.toList :=
  String.toList_ofList

/-- **The characters of a generated id**: those of the derived id, and a suffix if that one is taken. -/
theorem toList_resolveId (g : Registry) (name : String) :
    (g.resolveId name none).2.1.toList =
      Name.deriveId name.toList ++ if g.collides (derivedId name) then g.hash.suffix name else [] := by
  rw [resolveId_none]
  split
  · rw [suffixedId, String.toList_ofList, toList_derivedId]
  · rw [toList_derivedId, List.append_nil]

theorem isWordChar_of_mem_resolveId {g : Registry} (h : d ∈ (g.resolveId name none).2.1.toList) :
    Name.isWordChar d = true := by
  rw [toList_resolveId, List.mem_append] at h
  rcases h with h | h
  · exact Name.isWordChar_of_mem_deriveId h
  · split at h
    · exact isWordChar_of_mem_hexDigits (mem_hexDigits_of_mem_suffix h)
    · cases h

/-- **How an id comes from a name.** One pass over the name derives it, and so does a search for stretches of other
characters; it holds word characters and is its own derived id. A generated id is the derived one with a suffix or
without, and holds word characters in either case: a suffix is some lower-case hexadecimal digits, up to eight for
the fold and eight for the digest. -/
theorem generatedIds_hold_wordChars (name : String) :
    (Name.deriveId name.toList = (name.toList.foldl Name.keepWordChar ([], false)).1 ∧
        Name.deriveId name.toList = Name.replaceStretches name.toList) ∧
      (∀ c ∈ (derivedId name).toList, Name.isWordChar c = true) ∧
      derivedId (derivedId name) = derivedId name ∧
      (∀ g : Registry,
        (g.resolveId name none).2.1.toList =
            Name.deriveId name.toList ++ (if g.collides (derivedId name) then g.hash.suffix name else []) ∧
          ∀ c ∈ (g.resolveId name none).2.1.toList, Name.isWordChar c = true) ∧
      (∀ hash : HashKind, ∀ c ∈ hash.suffix name, c ∈ Digest.hexDigits) ∧
      (1 ≤ (HashKind.fold.suffix name).length ∧ (HashKind.fold.suffix name).length ≤ 8) ∧
      (HashKind.md5.suffix name).length = 8 := by
  have hderived := Name.deriveId_eq_camel name.toList
  refine ⟨⟨hderived, hderived.trans (Name.replaceStretches_eq_camel _).symm⟩, fun c hc => ?_, ?_,
    fun g => ⟨toList_resolveId g name, fun c => isWordChar_of_mem_resolveId⟩,
    fun hash c => mem_hexDigits_of_mem_suffix, length_suffix_fold name, length_suffix_md5 name⟩
  · rw [toList_derivedId] at hc
    exact Name.isWordChar_of_mem_deriveId hc
  · rw [← String.toList_inj, toList_derivedId, toList_derivedId, Name.deriveId_deriveId]

end StoryCatalog.Registry
