import Mathlib.Data.List.Basic
import Mathlib.Data.List.Infix

namespace ReplicationManager.Go.Strings

-- `strings.Split(s, sep)` for the one-character separators the callers pass: the pieces
-- between separators, empty ones included. Go strings are bytes, but an ASCII separator
-- never occurs inside a multi-byte character, so cutting the characters is the same cut.
def split (s : String) (sep : Char) : List String :=
  (s.toList.splitOn sep).map String.mk

-- `strings.HasPrefix(s, pre)`
def hasPrefix (s pre : String) : Bool := decide (pre.toList <+: s.toList)

-- `strings.HasSuffix(s, suffix)`
def hasSuffix (s suffix : String) : Bool := decide (suffix.toList <:+ s.toList)

-- `strings.Contains(s, substr)`
def contains (s substr : String) : Bool := decide (substr.toList <:+: s.toList)

-- The scan behind `strings.Replace(s, old, new, -1)` for a non-empty `old`: a match is
-- replaced and passed over, so matches are found left to right and never overlap. `skip`
-- counts the characters of the last match still to pass.
def replaceChars (old new : List Char) : Nat → List Char → List Char
  | _, [] => []
  | skip + 1, _ :: cs => replaceChars old new skip cs
  | 0, c :: cs =>
      if old.isPrefixOf (c :: cs) then new ++ replaceChars old new (old.length - 1) cs
      else c :: replaceChars old new 0 cs

-- `strings.Replace(s, old, new, -1)`. An empty `old` matches before every character and at
-- the end. As for `split`, matching characters is matching bytes in UTF-8.
def replace (s old new : String) : String :=
  if old = "" then ⟨new.toList ++ s.toList.flatMap fun c => c :: new.toList⟩
  else ⟨replaceChars old.toList new.toList 0 s.toList⟩

theorem replaceChars_skip (old new : List Char) :
    ∀ (k : Nat) (cs : List Char), replaceChars old new k cs = replaceChars old new 0 (cs.drop k)
  | _, [] => by cases ‹Nat› <;> rfl
  | 0, _ :: _ => rfl
  | k + 1, _ :: cs => by rw [replaceChars, replaceChars_skip old new k cs]; rfl

theorem replaceChars_cons (old new : List Char) (c : Char) (cs : List Char) :
    replaceChars old new 0 (c :: cs) =
      if old <+: c :: cs then new ++ replaceChars old new 0 (cs.drop (old.length - 1))
      else c :: replaceChars old new 0 cs := by
  simp only [replaceChars, List.isPrefixOf_iff_prefix]
  rw [replaceChars_skip old new (old.length - 1) cs]

private theorem prefix_append_cases {x m l : List Char} (h : x <+: m ++ l) :
    x <+: m ∨ ∃ y, x = m ++ y ∧ y <+: l := by
  obtain ⟨t, ht⟩ := h
  rcases List.append_eq_append_iff.mp ht with ⟨a, hm, -⟩ | ⟨c, hx, hl⟩
  · exact .inl ⟨a, hm.symm⟩
  · exact .inr ⟨c, hx, ⟨t, hl.symm⟩⟩

section NoOccurrence

variable {old new : List Char}

-- A prefix of the output shorter than `old` is read from the input, or ends inside the
-- first replacement.
theorem short_prefix_replaceChars (hlen : old.length ≤ new.length) (s y : List Char)
    (hy : y <+: replaceChars old new 0 s) (hshort : y.length < old.length) :
    y <+: s ∨ ∃ j z, z ≠ [] ∧ z <+: new ∧ y = s.take j ++ z := by
  induction s generalizing y with
  | nil => exact .inl (by simpa [replaceChars] using hy)
  | cons c cs ih =>
      rw [replaceChars_cons] at hy
      split at hy
      · rcases prefix_append_cases hy with hn | ⟨y', rfl, -⟩
        · by_cases hy0 : y = []
          · exact .inl (hy0 ▸ List.nil_prefix)
          · exact .inr ⟨0, y, hy0, hn, by simp⟩
        · simp at hshort; omega
      · rcases List.prefix_cons_iff.mp hy with rfl | ⟨t, rfl, ht⟩
        · exact .inl List.nil_prefix
        · rcases ih t ht (by simp at hshort; omega) with hp | ⟨j, z, hz, hzn, rfl⟩
          · exact .inl ((List.cons_prefix_cons).mpr ⟨rfl, hp⟩)
          · exact .inr ⟨j + 1, z, hz, hzn, by simp⟩

-- A replacement put in front of text without `old` makes no occurrence of `old` when
-- neither the replacement nor any of its tails starting a proper prefix of `old` holds it.
theorem not_infix_append_of_not_infix (hinner : ¬ old <:+: new)
    (hend : ∀ k, k < old.length → 0 < k → ¬ old.take k <:+ new) (out : List Char)
    (hout : ¬ old <:+: out) : ¬ old <:+: new ++ out := by
  suffices h : ∀ m, m <:+ new → ¬ old <:+: m ++ out from h new (List.suffix_refl new)
  intro m
  induction m with
  | nil => simpa using hout
  | cons a m ih =>
      intro hm hocc
      rcases List.infix_cons_iff.mp hocc with hp | hi
      · rcases prefix_append_cases (show old <+: (a :: m) ++ out from hp) with hp | ⟨y, hy, -⟩
        · exact hinner (hp.isInfix.trans hm.isInfix)
        · by_cases hy0 : y = []
          · subst hy0
            exact hinner (by simpa [hy] using hm.isInfix)
          · apply hend (a :: m).length
            · rw [hy, List.length_append]
              have := List.length_pos.mpr hy0
              omega
            · simp
            · rw [hy, List.take_left]
              exact hm
      · exact ih ((List.suffix_cons a m).trans hm) hi

-- No occurrence of `old` is left when the replacement cannot make one: it holds none, and
-- no proper prefix of `old` ends it and no proper suffix starts it.
theorem not_infix_replaceChars (hlen : old.length ≤ new.length) (hold : old ≠ [])
    (hinner : ¬ old <:+: new) (hend : ∀ k, k < old.length → 0 < k → ¬ old.take k <:+ new)
    (hstart : ∀ k, k < old.length → 0 < k → ¬ old.drop k <+: new) :
    ∀ s : List Char, ¬ old <:+: replaceChars old new 0 s
  | [] => by simpa [replaceChars] using hold
  | c :: cs => by
      rw [replaceChars_cons]
      split
      · exact not_infix_append_of_not_infix hinner hend _
          (not_infix_replaceChars hlen hold hinner hend hstart (cs.drop (old.length - 1)))
      · rename_i hnp
        intro hocc
        rcases List.infix_cons_iff.mp hocc with hp | hi
        · rcases List.prefix_cons_iff.mp hp with h0 | ⟨t, ht, htp⟩
          · exact hold h0
          · rcases short_prefix_replaceChars hlen cs t htp (by simp [ht]) with
              hp' | ⟨j, z, hz, hzn, htz⟩
            · exact hnp (ht ▸ List.cons_prefix_cons.mpr ⟨rfl, hp'⟩)
            · have := List.length_pos.mpr hz
              apply hstart ((cs.take j).length + 1)
              · rw [ht, htz]
                simp only [List.length_cons, List.length_append]
                omega
              · omega
              · rw [ht, htz]
                simpa using hzn
        · exact not_infix_replaceChars hlen hold hinner hend hstart cs hi
termination_by s => s.length
decreasing_by all_goals simp only [List.length_drop, List.length_cons]; omega

end NoOccurrence

-- For `strings.Replace`: with such a replacement, the result no longer contains `old`.
theorem contains_replace (s old new : String) (hold : old ≠ "")
    (hlen : old.length ≤ new.length) (hinner : contains new old = false)
    (hend : ∀ k, k < old.length → 0 < k → ¬ old.toList.take k <:+ new.toList)
    (hstart : ∀ k, k < old.length → 0 < k → ¬ old.toList.drop k <+: new.toList) :
    contains (replace s old new) old = false := by
  have hold' : old.toList ≠ [] := fun h => hold (String.ext_iff.mpr h)
  simpa [contains, replace, hold] using
    not_infix_replaceChars hlen hold' (by simpa [contains] using hinner) hend hstart s.toList

example : replace "a./.system b" "./.system" "/var/lib/mysql/.system" =
    "a/var/lib/mysql/.system b" := by decide

theorem split_empty (sep : Char) : split "" sep = [""] := rfl

theorem split_ne_nil (s : String) (sep : Char) : split s sep ≠ [] := by
  simpa [split, List.splitOn] using List.splitOnP_ne_nil _ s.toList

private theorem not_of_mem_splitOnP {α : Type} (p : α → Bool) (xs : List α) :
    ∀ l ∈ xs.splitOnP p, ∀ y ∈ l, p y = false := by
  induction xs with
  | nil => simp
  | cons x xs ih =>
      obtain ⟨f, fs, hfs⟩ := List.exists_cons_of_ne_nil (List.splitOnP_ne_nil p xs)
      rw [hfs] at ih
      rw [List.splitOnP_cons, hfs]
      split_ifs with hx
      · simpa using ih
      · simp only [List.modifyHead, List.mem_cons, forall_eq_or_imp] at ih ⊢
        exact ⟨⟨by simpa using hx, ih.1⟩, ih.2⟩

-- No piece holds the separator.
theorem sep_not_mem_of_mem_split {s field : String} {sep : Char}
    (h : field ∈ split s sep) : sep ∉ field.toList := by
  obtain ⟨l, hl, rfl⟩ := List.mem_map.mp h
  intro hmem
  simpa using not_of_mem_splitOnP (· == sep) s.toList l hl sep hmem

-- Joining the pieces with the separator gives the string back.
theorem intercalate_split (s : String) (sep : Char) :
    [sep].intercalate ((split s sep).map String.toList) = s.toList := by
  simpa [split, Function.comp_def] using List.intercalate_splitOn s.toList sep

private theorem mem_intersperse_of_mem {α : Type} (sep : α) :
    ∀ {xs : List α} {x : α}, x ∈ xs → x ∈ xs.intersperse sep
  | [_], _, h => h
  | _ :: _ :: _, _, h => by
      rcases List.mem_cons.mp h with rfl | h
      · exact List.mem_cons_self _ _
      · exact List.mem_cons_of_mem _ (List.mem_cons_of_mem _ (mem_intersperse_of_mem sep h))

-- Every character of a piece is a character of the string.
theorem mem_of_mem_split {s field : String} {sep c : Char} (h : field ∈ split s sep)
    (hc : c ∈ field.toList) : c ∈ s.toList := by
  rw [← intercalate_split s sep, List.intercalate]
  exact List.mem_flatten_of_mem (mem_intersperse_of_mem _ (List.mem_map_of_mem _ h)) hc

-- Conversely the pieces are the only separator-free decomposition of the string.
theorem split_intercalate {fields : List String} {sep : Char} (hne : fields ≠ [])
    (hsep : ∀ f ∈ fields, sep ∉ f.toList) :
    split ⟨[sep].intercalate (fields.map String.toList)⟩ sep = fields := by
  have h := List.splitOn_intercalate (fields.map String.toList) sep
    (by simpa using hsep) (by simpa using hne)
  simp [split, String.toList, h, Function.comp_def]

-- The pieces are determined by the string: they are the one non-empty list of
-- separator-free pieces that joins back to it.
theorem split_eq_iff (s : String) (sep : Char) (fields : List String) :
    split s sep = fields ↔ fields ≠ [] ∧ (∀ f ∈ fields, sep ∉ f.toList) ∧
      [sep].intercalate (fields.map String.toList) = s.toList := by
  constructor
  · rintro rfl
    exact ⟨split_ne_nil s sep, fun f hf => sep_not_mem_of_mem_split hf, intercalate_split s sep⟩
  · rintro ⟨hne, hsep, hjoin⟩
    have hs : s = ⟨[sep].intercalate (fields.map String.toList)⟩ := String.ext hjoin.symm
    rw [hs, split_intercalate hne hsep]

-- A second piece exists exactly when the separator occurs, so `strings.Split(s, sep)[1]`
-- panics exactly on a string without it.
theorem two_le_length_split_iff (s : String) (sep : Char) :
    2 ≤ (split s sep).length ↔ sep ∈ s.toList := by
  constructor
  · intro h
    by_contra hsep
    rw [(split_eq_iff s sep [s]).mpr ⟨by simp, by simpa using hsep, by simp [List.intercalate]⟩] at h
    simp at h
  · intro hsep
    obtain ⟨f, fs, hfs⟩ := List.exists_cons_of_ne_nil (split_ne_nil s sep)
    cases fs with
    | cons => simp [hfs]
    | nil =>
        obtain ⟨-, hf, hjoin⟩ := (split_eq_iff s sep [f]).mp hfs
        have hfs : f.toList = s.toList := by simpa [List.intercalate] using hjoin
        exact absurd (hfs ▸ hsep) (hf f (List.mem_singleton_self f))

theorem mem_split_empty {field : String} {sep : Char} :
    field ∈ split "" sep ↔ field = "" := by
  simp [split_empty]

end ReplicationManager.Go.Strings
