import TwinView.Proofs.Toml.Reading
import TwinView.Toml.Statement

/-!
Bare keys and plain strings stand for their own characters.
-/

namespace TwinView.Toml

/-- A key that needs no quotes. -/
structure BareName where
  text : String
  present : text.toList ≠ []
  bare : text.toList.all Scan.isBareKey = true

/-- A text that needs no escapes between double quotes. -/
structure PlainText where
  text : String
  present : text.toList ≠ []
  plain : text.toList.all (fun c => isTextual c && c ≠ '"' && c ≠ '\\') = true

theorem BareName.bare_of_mem (name : BareName) : ∀ c ∈ name.text.toList, Scan.isBareKey c = true :=
  List.all_eq_true.mp name.bare

theorem PlainText.plain_of_mem (text : PlainText) :
    ∀ c ∈ text.text.toList, isTextual c = true ∧ c ≠ '"' ∧ c ≠ '\\' := by
  intro c member
  have plain := List.all_eq_true.mp text.plain c member
  simpa [and_assoc] using plain

theorem BareName.head (name : BareName) :
    ∃ c rest, name.text.toList = c :: rest ∧ Scan.isBareKey c = true := by
  cases written : name.text.toList with
  | nil => exact absurd written name.present
  | cons c rest => exact ⟨c, rest, rfl, name.bare_of_mem c (written ▸ List.mem_cons_self)⟩

namespace Scan

theorem run_spaces_solid {c : Char} (solid : isSpace c = false) (rest : List Char) :
    StateT.run spaces (c :: rest) = some ((), c :: rest) := by
  have kept : (c :: rest).dropWhile isSpace = c :: rest := by simp [solid]
  show some ((), (c :: rest).dropWhile isSpace) = _
  rw [kept]

/-- No mark that has a meaning of its own is part of a bare key. -/
theorem ne_of_bare {c mark : Char} (bare : isBareKey c = true) (special : isBareKey mark = false) :
    c ≠ mark := by
  rintro rfl
  cases bare.symm.trans special

theorem isSpace_of_bare {c : Char} (bare : isBareKey c = true) : isSpace c = false := by
  have blank : c ≠ ' ' := ne_of_bare bare rfl
  have tab : c ≠ '\t' := ne_of_bare bare rfl
  simp [isSpace, blank, tab]

section Key

variable (name : BareName) {next : Char} (rest : List Char)

theorem run_simpleKey (ended : isBareKey next = false) :
    StateT.run simpleKey (name.text.toList ++ next :: rest) = some (name.text, next :: rest) := by
  obtain ⟨c, others, written, first⟩ := name.head
  have quoted : ∀ mark, isBareKey mark = false →
      StateT.run (char mark) (name.text.toList ++ next :: rest) = none := by
    intro mark special
    rw [written, List.cons_append, run_char, if_neg (ne_of_bare first special)]
  have noBasic : StateT.run basicString (name.text.toList ++ next :: rest) = none :=
    run_bind_none (quoted '"' rfl) _
  have noLiteral : StateT.run literalString (name.text.toList ++ next :: rest) = none :=
    run_bind_none (quoted '\'' rfl) _
  have taken : (name.text.toList ++ next :: rest).takeWhile isBareKey = name.text.toList := by
    rw [List.takeWhile_append_of_pos name.bare_of_mem, List.takeWhile_cons_of_neg (by simp [ended]),
      List.append_nil]
  have left : (name.text.toList ++ next :: rest).dropWhile isBareKey = next :: rest := by
    rw [List.dropWhile_append_of_pos name.bare_of_mem, List.dropWhile_cons_of_neg (by simp [ended])]
  have all : StateT.run (run isBareKey) (name.text.toList ++ next :: rest) =
      some (name.text.toList, next :: rest) := by
    show some ((name.text.toList ++ next :: rest).takeWhile isBareKey, _) = _
    rw [taken, left]
  have filled : ¬ name.text.toList.isEmpty = true := by simp [written]
  have read : StateT.run (basicString <|> literalString <|> run1 isBareKey)
      (name.text.toList ++ next :: rest) = some (name.text.toList, next :: rest) := by
    rw [run_orElse_none noBasic, run_orElse_none noLiteral, run1, run_bind_some all, if_neg filled]
    rfl
  rw [simpleKey, run_bind_some read, String.ofList_toList]
  rfl

theorem run_keyPart (ended : isBareKey next = false) :
    StateT.run keyPart (name.text.toList ++ next :: rest) =
      some (name.text, (next :: rest).dropWhile isSpace) := by
  obtain ⟨c, others, written, first⟩ := name.head
  have clear : StateT.run spaces (name.text.toList ++ next :: rest) =
      some ((), name.text.toList ++ next :: rest) := by
    rw [written]
    exact run_spaces_solid (isSpace_of_bare first) _
  rw [keyPart, run_bind_some clear, run_bind_some (run_simpleKey name rest ended)]
  rfl

/-- A key of one part ends at the first character that is neither blank nor a point. -/
theorem run_key (ended : isBareKey next = false) {mark : Char} {tail : List Char}
    (remain : (next :: rest).dropWhile isSpace = mark :: tail) (single : mark ≠ '.') :
    StateT.run key (name.text.toList ++ next :: rest) = some (⟨[], name.text⟩, mark :: tail) := by
  have one := run_keyPart name rest ended
  rw [remain] at one
  -- No point follows, so the repetition for further parts ends at once.
  have noMore : StateT.run (collect (do (do char '.'; return some (← keyPart)) <|> pure none))
      (mark :: tail) = some ([], mark :: tail) := by
    refine Collects.run_collect (.stop ?_) (Nat.zero_le _)
    rw [run_orElse_none (run_bind_none (by rw [run_char, if_neg single]) _)]
    rfl
  have names : StateT.run (separated '.' keyPart) (name.text.toList ++ next :: rest) =
      some ([name.text], mark :: tail) := by
    rw [separated, run_bind_some one, run_bind_some noMore]
    rfl
  rw [key, run_bind_some names]
  rfl

end Key

/-- What a basic string repeats. -/
def stringCharacter : Scan (Option Char) := do
  match ← next with
  | '"' => pure none
  | '\\' => return some (← escaped)
  | c => if isTextual c then pure (some c) else failure

theorem basicString_eq : basicString = (do char '"'; collect stringCharacter) := rfl

theorem run_stringCharacter {c : Char} (plain : isTextual c = true ∧ c ≠ '"' ∧ c ≠ '\\')
    (rest : List Char) :
    StateT.run stringCharacter (c :: rest) = some (some c, rest) := by
  rw [stringCharacter, run_bind_some (run_next c rest)]
  split
  · exact absurd rfl plain.2.1
  · exact absurd rfl plain.2.2
  · rw [if_pos plain.1]
    rfl

theorem collects_plain {text : List Char}
    (plain : ∀ c ∈ text, isTextual c = true ∧ c ≠ '"' ∧ c ≠ '\\') (rest : List Char) :
    Collects stringCharacter (text ++ '"' :: rest) text rest := by
  induction text with
  | nil => exact .stop rfl
  | cons c others ih =>
      have later := ih fun d member => plain d (List.mem_cons_of_mem c member)
      exact .item (run_stringCharacter (plain c List.mem_cons_self) _) later

/-- A string without escapes is read as it stands between its quotes. -/
theorem run_string (plain : PlainText) (rest : List Char) :
    StateT.run string ('"' :: (plain.text.toList ++ '"' :: rest)) = some (plain.text.toList, rest) := by
  have opened : ∀ text, StateT.run (char '"') ('"' :: text) = some ((), text) := fun text => rfl
  -- The second of three opening quotes would have to be the first character of the text.
  have noLong : StateT.run longBasicString ('"' :: (plain.text.toList ++ '"' :: rest)) = none := by
    apply run_bind_none
    rw [word, run_bind_some (opened _), word]
    apply run_bind_none
    cases written : plain.text.toList with
    | nil => exact absurd written plain.present
    | cons c others =>
        have inner := plain.plain_of_mem c (written ▸ List.mem_cons_self)
        rw [List.cons_append, run_char, if_neg inner.2.1]
  have noLiteral : StateT.run longLiteralString ('"' :: (plain.text.toList ++ '"' :: rest)) = none :=
    run_bind_none (run_bind_none rfl _) _
  have basic : StateT.run basicString ('"' :: (plain.text.toList ++ '"' :: rest)) =
      some (plain.text.toList, rest) := by
    have collects := collects_plain plain.plain_of_mem rest
    rw [basicString_eq, run_bind_some (opened _), collects.run_collect (by simp)]
  rw [string, run_orElse_none noLong, run_orElse_none noLiteral, run_orElse, basic]
  rfl

end Scan

end TwinView.Toml
