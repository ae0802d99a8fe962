import ShadingGraph.Proofs.Ron.Token

/-!
# String literals read back

A written string stands between double quotes, and each of its characters stands for itself or is
written as one escape. Both are read as the character.

## Main definitions

- `Ron.Spells` — the characters that a text between quotes stands for

## Main results

- `Ron.escapeForDocument_cases` — the two ways in which a character is written
- `Ron.Spells.readString` — a text between quotes is read as the string that it spells
- `Ron.readString_quote` — a written string is read as the string
-/

namespace ShadingGraph

namespace Ron

/-! ## Escapes by number -/

theorem hexValue?_digitChar {d : Nat} (hd : d < 16) : hexValue? (Nat.digitChar d) = some d := by
  revert d
  decide

theorem hexNumber_append (ds : List Char) (c : Char) :
    hexNumber (ds ++ [c]) = 16 * hexNumber ds + (hexValue? c).getD 0 := by
  simp [hexNumber, List.foldl_append]

/-- Hexadecimal digits are read as the number that they were written for. -/
theorem hexNumber_toDigits (n : Nat) : hexNumber (Nat.toDigits 16 n) = n := by
  induction n using Nat.strongRecOn with
  | ind n ih =>
    rw [Nat.toDigits_eq_if (by decide)]
    split
    · rename_i hlt
      simp [hexNumber, hexValue?_digitChar hlt]
    · rename_i hge
      rw [hexNumber_append, ih (n / 16) (by omega),
        hexValue?_digitChar (Nat.mod_lt n (by decide)), Option.getD_some]
      omega

theorem isSome_hexValue?_of_mem_toDigits {n : Nat} {c : Char} (hc : c ∈ Nat.toDigits 16 n) :
    (hexValue? c).isSome = true := by
  induction n using Nat.strongRecOn with
  | ind n ih =>
    rw [Nat.toDigits_eq_if (by decide)] at hc
    split at hc
    · rename_i hlt
      rw [List.mem_singleton.1 hc, hexValue?_digitChar hlt]
      rfl
    · rename_i hge
      rcases List.mem_append.1 hc with hfront | hlast
      · exact ih (n / 16) (by omega) hfront
      · rw [List.mem_singleton.1 hlast, hexValue?_digitChar (Nat.mod_lt n (by decide))]
        rfl

theorem charOfNumber?_toNat (c : Char) : charOfNumber? c.toNat = some c := by
  have hvalid : c.toNat.isValidChar := c.valid
  rw [charOfNumber?, dif_pos hvalid]
  rfl

theorem readEscape_numeric (c : Char) (rest : List Char) :
    readEscape ('u' :: '{' :: (Nat.toDigits 16 c.toNat ++ '}' :: rest)) = some (c, rest) := by
  have hdigits : ∀ d ∈ Nat.toDigits 16 c.toNat, (hexValue? d).isSome = true := fun _ hd =>
    isSome_hexValue?_of_mem_toDigits hd
  have hclose : (hexValue? '}').isSome = false := by decide
  have hlength : (Nat.toDigits 16 c.toNat).length ≤ 6 := by
    rw [Nat.length_toDigits_le_iff (by decide) (by decide)]
    have : c.toNat.isValidChar := c.valid
    rcases this with hlow | hhigh <;> omega
  have hsome : Nat.toDigits 16 c.toNat ≠ [] := Nat.toDigits_ne_nil
  simp [readEscape, readCodePoint, List.takeWhile_append_of_pos hdigits,
    List.dropWhile_append_of_pos hdigits, hclose, hsome, Nat.not_lt.2 hlength, expect,
    hexNumber_toDigits, charOfNumber?_toNat]

/-! ## Characters and strings -/

/-- A character is written as itself or as one escape. -/
theorem escapeForDocument_cases (c : Char) :
    (escapeForDocument c = [c] ∧ c ≠ '"' ∧ c ≠ '\\') ∨
      ∃ e, escapeForDocument c = '\\' :: e ∧ ∀ rest, readEscape (e ++ rest) = some (c, rest) := by
  rw [escapeForDocument]
  split
  · subst c
    exact Or.inr ⟨['\''], rfl, fun _ => rfl⟩
  · unfold escapeForInspection
    split
    · exact Or.inr ⟨['0'], rfl, fun _ => rfl⟩
    · exact Or.inr ⟨['t'], rfl, fun _ => rfl⟩
    · exact Or.inr ⟨['r'], rfl, fun _ => rfl⟩
    · exact Or.inr ⟨['n'], rfl, fun _ => rfl⟩
    · exact Or.inr ⟨['\\'], rfl, fun _ => rfl⟩
    · exact Or.inr ⟨['"'], rfl, fun _ => rfl⟩
    · rename_i hbackslash hquote
      split
      · exact Or.inl ⟨rfl, hquote, hbackslash⟩
      · refine Or.inr ⟨'u' :: '{' :: (Nat.toDigits 16 c.toNat ++ ['}']), rfl, fun rest => ?_⟩
        simpa using readEscape_numeric c rest

/-- A text spells characters: each one stands for itself, unless it would end the string or begin an
escape, or is escaped as in a written string. -/
inductive Spells : List Char → List Char → Prop where
  | nil : Spells [] []
  | plain (c : Char) (cs text : List Char) (hquote : c ≠ '"') (hbackslash : c ≠ '\\')
    (h : Spells cs text) : Spells (c :: cs) (c :: text)
  | escaped (c : Char) (cs text : List Char) (h : Spells cs text) :
    Spells (c :: cs) (escapeForDocument c ++ text)

theorem spells_flatMap (cs : List Char) : Spells cs (cs.flatMap escapeForDocument) := by
  induction cs with
  | nil => exact .nil
  | cons c cs ih => exact .escaped c cs _ ih

theorem Spells.length_le {cs text : List Char} (h : Spells cs text) : cs.length ≤ text.length := by
  induction h with
  | nil => exact Nat.le_refl 0
  | plain c cs text _ _ _ ih => exact Nat.succ_le_succ ih
  | escaped c cs text _ ih =>
    have hshown : 0 < (escapeForDocument c).length := by
      rcases escapeForDocument_cases c with ⟨h, -, -⟩ | ⟨e, h, -⟩ <;> simp [h]
    rw [List.length_append, List.length_cons]
    omega

/-- The characters that are spelled are read up to the closing quote. -/
theorem Spells.readQuoted {cs text : List Char} (h : Spells cs text) {steps : Nat}
    (hsteps : cs.length < steps) (rest : List Char) :
    readQuoted steps (text ++ '"' :: rest) = some (cs, rest) := by
  induction h generalizing steps with
  | nil =>
    obtain ⟨steps, rfl⟩ := Nat.exists_eq_add_one.2 (Nat.zero_lt_of_lt hsteps)
    simp [Ron.readQuoted]
  | plain c cs text hquote hbackslash _ ih =>
    obtain ⟨steps, rfl⟩ := Nat.exists_eq_add_one.2 (Nat.zero_lt_of_lt hsteps)
    have hlength : cs.length < steps := by simpa using hsteps
    simp [Ron.readQuoted, hquote, hbackslash, ih hlength]
  | escaped c cs text _ ih =>
    obtain ⟨steps, rfl⟩ := Nat.exists_eq_add_one.2 (Nat.zero_lt_of_lt hsteps)
    have hlength : cs.length < steps := by simpa using hsteps
    rw [List.append_assoc]
    rcases escapeForDocument_cases c with ⟨hplain, hquote, hbackslash⟩ | ⟨e, hescape, hread⟩
    · rw [hplain]
      simp [Ron.readQuoted, hquote, hbackslash, ih hlength]
    · rw [hescape]
      simp [Ron.readQuoted, hread, ih hlength]

/-- A text between quotes is read as the string that it spells. -/
theorem Spells.readString {s : String} {text : List Char} (h : Spells s.toList text)
    (rest : List Char) : readString ('"' :: (text ++ '"' :: rest)) = some (s, rest) := by
  have hsteps : s.toList.length < (text ++ '"' :: rest).length + 1 := by
    have := h.length_le
    rw [List.length_append]
    omega
  rw [Ron.readString, readChars, h.readQuoted hsteps, Option.map_some, String.ofList_toList]

/-- A written string is read as the string. -/
theorem readString_quote (s : String) (rest : List Char) :
    readString (quote escapeForDocument s ++ rest) = some (s, rest) := by
  have hquoted : quote escapeForDocument s ++ rest =
      '"' :: (s.toList.flatMap escapeForDocument ++ '"' :: rest) := by
    simp [quote]
  rw [hquoted, (spells_flatMap s.toList).readString]

end Ron

end ShadingGraph
