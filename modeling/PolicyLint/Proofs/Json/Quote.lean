import PolicyLint.Rule.Basic

/-!
# Quoted strings

A quoted string tells where it ends, and what was quoted. So the canonical text of a rule, which begins
with its name, determines the name.
-/

namespace PolicyLint

namespace Json

def escaped : List Char := '"' :: '\\' :: (List.range 32).map Char.ofNat

theorem escapeChar_head {c : Char} (special : c ∈ escaped) : (escapeChar c).head? = some '\\' := by
  have heads : (escaped.all fun c => (escapeChar c).head? == some '\\') = true := by decide +kernel
  exact beq_iff_eq.mp (List.all_eq_true.mp heads c special)

theorem escapeChar_apart {c c' : Char} (special : c ∈ escaped) (special' : c' ∈ escaped)
    (starts : escapeChar c <+: escapeChar c') : c = c' := by
  have apart : (escaped.all fun c => escaped.all fun c' => !(escapeChar c).isPrefixOf (escapeChar c') || c == c') = true := by
    decide +kernel
  have either := List.all_eq_true.mp (List.all_eq_true.mp apart c special) c' special'
  rw [List.isPrefixOf_iff_prefix.mpr starts] at either
  exact beq_iff_eq.mp either

theorem escapeChar_plain {c : Char} (plain : c ∉ escaped) : escapeChar c = [c] := by
  have other : ∀ d ∈ escaped, c ≠ d := fun d member same => plain (same ▸ member)
  have large : ¬c.toNat < 0x20 := by
    intro small
    refine plain (List.mem_cons_of_mem _ (List.mem_cons_of_mem _ (List.mem_map.mpr ⟨c.toNat, ?_, ?_⟩)))
    · exact List.mem_range.mpr small
    · exact Char.ofNat_toNat c
  unfold escapeChar
  rw [if_neg (other '"' (by decide)), if_neg (other '\\' (by decide)), if_neg (other '\n' (by decide)),
    if_neg (other '\r' (by decide)), if_neg (other '\t' (by decide)), if_neg (other '\x08' (by decide)),
    if_neg (other '\x0c' (by decide)), if_neg large]

theorem escapeChar_append_inj {c c' : Char} {x x' : List Char} (same : escapeChar c ++ x = escapeChar c' ++ x') :
    c = c' ∧ x = x' := by
  have chars : c = c' := by
    -- No escape is the start of another one, and plain characters are no backslash.
    by_cases special : c ∈ escaped <;> by_cases special' : c' ∈ escaped
    · have first : escapeChar c <+: escapeChar c' ++ x' := ⟨x, same⟩
      have second : escapeChar c' <+: escapeChar c' ++ x' := ⟨x', rfl⟩
      rcases Nat.le_total (escapeChar c).length (escapeChar c').length with shorter | longer
      · exact escapeChar_apart special special' (List.prefix_of_prefix_length_le first second shorter)
      · exact (escapeChar_apart special' special (List.prefix_of_prefix_length_le second first longer)).symm
    · obtain ⟨rest, starts⟩ := List.head?_eq_some_iff.mp (escapeChar_head special)
      rw [starts, escapeChar_plain special'] at same
      exact absurd ((List.cons.inj same).1 ▸ special') (by decide)
    · obtain ⟨rest, starts⟩ := List.head?_eq_some_iff.mp (escapeChar_head special')
      rw [starts, escapeChar_plain special] at same
      exact absurd ((List.cons.inj same).1 ▸ special) (by decide)
    · rw [escapeChar_plain special, escapeChar_plain special'] at same
      exact (List.cons.inj same).1
  subst chars
  exact ⟨rfl, List.append_cancel_left same⟩

theorem escapeChar_ne_quote (c : Char) (x y : List Char) : escapeChar c ++ x ≠ '"' :: y := by
  intro same
  by_cases special : c ∈ escaped
  · obtain ⟨rest, starts⟩ := List.head?_eq_some_iff.mp (escapeChar_head special)
    rw [starts] at same
    exact absurd (List.cons.inj same).1 (by decide)
  · rw [escapeChar_plain special] at same
    exact special ((List.cons.inj same).1 ▸ by decide)

theorem escaped_append_inj {cs cs' x x' : List Char}
    (same : cs.flatMap escapeChar ++ '"' :: x = cs'.flatMap escapeChar ++ '"' :: x') : cs = cs' ∧ x = x' := by
  induction cs generalizing cs' with
  | nil =>
    cases cs' with
    | nil => exact ⟨rfl, (List.cons.inj same).2⟩
    | cons c' rest' =>
      rw [List.flatMap_cons, List.append_assoc] at same
      exact absurd same.symm (escapeChar_ne_quote c' _ _)
  | cons c rest ih =>
    rw [List.flatMap_cons, List.append_assoc] at same
    cases cs' with
    | nil => exact absurd same (escapeChar_ne_quote c _ _)
    | cons c' rest' =>
      rw [List.flatMap_cons, List.append_assoc] at same
      obtain ⟨rfl, later⟩ := escapeChar_append_inj same
      obtain ⟨rfl, end'⟩ := ih later
      exact ⟨rfl, end'⟩

/-- A quoted string at the start of a text is determined, and so is what follows it. -/
theorem quote_append_inj {s s' : String} {x x' : List Char} (same : quote s ++ x = quote s' ++ x') :
    s = s' ∧ x = x' := by
  unfold quote at same
  rw [List.append_assoc, List.append_assoc, List.cons_append, List.cons_append] at same
  obtain ⟨chars, rest⟩ := escaped_append_inj (List.cons.inj same).2
  exact ⟨String.toList_inj.mp chars, rest⟩

theorem compactMembers_cons {k : String} {j : Json} {rest : List (String × Json)} (some : rest ≠ []) :
    compactMembers ((k, j) :: rest) = quote k ++ ':' :: compact j ++ ',' :: compactMembers rest := by
  cases rest with
  | nil => exact absurd rfl some
  | cons next others =>
    rw [compactMembers]
    exact some

end Json

/-- The canonical text of a rule determines its name. -/
theorem Rule.name_of_canonical {r r' : Rule} (same : r.canonical = r'.canonical) : r.name = r'.name := by
  have starts : ∀ r : Rule, ∃ rest, r.canonical.toList =
      '\x7b' :: (Json.quote "name" ++ ':' :: (Json.quote r.name ++ ',' :: rest)) := by
    intro r
    obtain ⟨others, some, members⟩ : ∃ others, others ≠ [] ∧
        r.toJson = .object (("name", .string r.name) :: others) := ⟨_, by simp [Json.field], rfl⟩
    refine ⟨Json.compactMembers others ++ ['\x7d'], ?_⟩
    rw [Rule.canonical, members, Json.render, String.toList_ofList, Json.compact, Json.compactMembers_cons some,
      Json.compact]
    simp
  obtain ⟨rest, text⟩ := starts r
  obtain ⟨rest', text'⟩ := starts r'
  rw [same, text'] at text
  have names := List.append_cancel_left (List.cons.inj text).2
  exact (Json.quote_append_inj (List.cons.inj names).2).1.symm

end PolicyLint
