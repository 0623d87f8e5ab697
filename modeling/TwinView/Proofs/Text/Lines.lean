import TwinView.Text.Line

/-!
What the lines of a text are, said without going through it: each ends at a line feed, or at a carriage return
and a line feed, except that the last one may have no end. The reader finds exactly these. A text that ends
at a line end can be followed by another one without disturbing the lines of either.
-/

namespace TwinView.Text

inductive Lined : List (List Char) → List Char → Prop
  | none : Lined [] []
  | last {line : List Char} (present : line ≠ []) (unbroken : '\n' ∉ line) : Lined [line] line
  | feed {line rest : List Char} {lines : List (List Char)} (unbroken : '\n' ∉ line)
      (bare : line.getLast? ≠ some '\r') (next : Lined lines rest) :
      Lined (line :: lines) (line ++ '\n' :: rest)
  | returnFeed {line rest : List Char} {lines : List (List Char)} (unbroken : '\n' ∉ line)
      (next : Lined lines rest) : Lined (line :: lines) (line ++ '\r' :: '\n' :: rest)

theorem linesFrom_append (begun : List Char) {line : List Char} (unbroken : '\n' ∉ line)
    (rest : List Char) : linesFrom begun (line ++ rest) = linesFrom (line.reverse ++ begun) rest := by
  induction line generalizing begun with
  | nil => rfl
  | cons c line ih =>
      rw [List.mem_cons, not_or] at unbroken
      have going : linesFrom begun (c :: (line ++ rest)) = linesFrom (c :: begun) (line ++ rest) := by
        rw [linesFrom]
        exact fun feed => unbroken.1 feed.symm
      rw [List.cons_append, going, ih _ unbroken.2, List.reverse_cons, List.append_assoc]
      rfl

theorem lines_last {line : List Char} (present : line ≠ []) (unbroken : '\n' ∉ line) :
    lines line = [line] := by
  have whole := linesFrom_append [] unbroken []
  rw [List.append_nil, List.append_nil] at whole
  rw [lines, whole, linesFrom, if_neg (by simpa using present), List.reverse_reverse]

theorem lines_feed {line : List Char} (unbroken : '\n' ∉ line) (rest : List Char) :
    lines (line ++ '\n' :: rest) = (dropReturn line.reverse).reverse :: lines rest := by
  rw [lines, linesFrom_append [] unbroken, List.append_nil]
  rfl

theorem dropReturn_bare {line : List Char} (bare : line.getLast? ≠ some '\r') :
    (dropReturn line.reverse).reverse = line := by
  rw [← List.head?_reverse] at bare
  have same : dropReturn line.reverse = line.reverse := by
    cases reversed : line.reverse with
    | nil => rfl
    | cons c rest =>
        rw [dropReturn]
        intro earlier same
        cases same
        exact bare (by rw [reversed]; rfl)
  rw [same, List.reverse_reverse]

theorem Lined.lines_eq {text : List Char} {found : List (List Char)} (lined : Lined found text) :
    lines text = found := by
  induction lined with
  | none => rfl
  | last present unbroken => exact lines_last present unbroken
  | feed unbroken bare next ih => rw [lines_feed unbroken, dropReturn_bare bare, ih]
  | @returnFeed line rest lines unbroken next ih =>
      have returned : '\n' ∉ line ++ ['\r'] := by simp [unbroken]
      have dropped : (dropReturn (line ++ ['\r']).reverse).reverse = line := by simp [dropReturn]
      rw [List.append_cons, lines_feed returned, dropped, ih]

theorem lined_lines (text : List Char) : Lined (lines text) text := by
  -- By the length of the text, since a line is taken off as a whole.
  induction length : text.length using Nat.strongRecOn generalizing text with
  | ind count ih =>
      by_cases broken : '\n' ∈ text
      · -- Up to the first line feed it is one line, and what is before the feed tells its end.
        obtain ⟨line, rest, rfl, unbroken⟩ := List.eq_append_cons_of_mem broken
        have next : Lined (lines rest) rest := by
          apply ih rest.length _ rest rfl
          simp at length
          omega
        rw [lines_feed unbroken]
        by_cases returned : line.getLast? = some '\r'
        · obtain ⟨before, rfl⟩ := List.getLast?_eq_some_iff.mp returned
          have shorter : '\n' ∉ before := fun member => unbroken (List.mem_append_left _ member)
          have dropped : (dropReturn (before ++ ['\r']).reverse).reverse = before := by simp [dropReturn]
          rw [dropped, ← List.append_cons]
          exact .returnFeed shorter next
        · rw [dropReturn_bare returned]
          exact .feed unbroken returned next
      · by_cases present : text = []
        · subst present
          exact .none
        · rw [lines_last present broken]
          exact .last present broken

theorem lines_iff {text : List Char} {found : List (List Char)} :
    lines text = found ↔ Lined found text := by
  constructor
  · rintro rfl
    exact lined_lines text
  · exact Lined.lines_eq

/-- What can come directly after a line. -/
inductive Ending : List Char → Prop
  | none : Ending []
  | feed (rest : List Char) : Ending ('\n' :: rest)
  | returnFeed (rest : List Char) : Ending ('\r' :: '\n' :: rest)

theorem Ending.lined {line rest : List Char} (ending : Ending rest) (present : line ≠ [])
    (unbroken : '\n' ∉ line) (bare : line.getLast? ≠ some '\r') :
    ∃ others, Lined (line :: others) (line ++ rest) := by
  cases ending with
  | none => exact ⟨[], by simpa using Lined.last present unbroken⟩
  | feed rest => exact ⟨lines rest, .feed unbroken bare (lined_lines rest)⟩
  | returnFeed rest => exact ⟨lines rest, .returnFeed unbroken (lined_lines rest)⟩

/-- A text that is empty or ends at a line end. -/
def Closed (text : List Char) : Prop := ∀ c ∈ text.getLast?, c = '\n'

theorem Closed.rest {before rest : List Char} {c : Char} (closed : Closed (before ++ c :: rest)) :
    Closed rest := by
  cases rest with
  | nil =>
      intro d none
      cases none
  | cons d rest =>
      rw [Closed, List.getLast?_append, List.getLast?_cons_cons] at closed
      simpa [Closed] using closed

theorem Lined.append {text rest : List Char} {found others : List (List Char)}
    (lined : Lined found text) (closed : Closed text) (next : Lined others rest) :
    Lined (found ++ others) (text ++ rest) := by
  induction lined with
  | none => exact next
  | @last line present unbroken =>
      -- A line without an end does not close a text.
      have ended := closed _ (List.getLast?_eq_some_getLast present)
      exact absurd (ended ▸ List.getLast_mem present) unbroken
  | feed unbroken bare _ ih =>
      rw [List.append_assoc]
      exact .feed unbroken bare (ih closed.rest)
  | @returnFeed line rest lines unbroken _ ih =>
      rw [List.append_cons] at closed
      rw [List.append_assoc]
      exact .returnFeed unbroken (ih closed.rest)

/-- Ending the last line makes no difference to a search that finds nothing in an empty line and does not mind a
return at the end of one. -/
theorem findSome?_linesFrom_feed {Answer : Type} {answer : List Char → Option Answer}
    (blank : answer [] = none) (returned : ∀ line, answer (line ++ ['\r']) = answer line)
    (begun text : List Char) :
    (linesFrom begun (text ++ ['\n'])).findSome? answer = (linesFrom begun text).findSome? answer := by
  have ended (line : List Char) : answer (dropReturn line).reverse = answer line.reverse := by
    unfold dropReturn
    split
    · rw [List.reverse_cons, returned]
    · rfl
  -- For any line begun, since the scan hands it on until the line ends.
  induction text generalizing begun with
  | nil =>
      cases begun with
      | nil => simp [linesFrom, dropReturn, blank]
      | cons c begun => simp [linesFrom, ended (c :: begun)]
  | cons c text ih =>
      by_cases feed : c = '\n'
      · subst feed
        simp only [List.cons_append, linesFrom, List.findSome?_cons, ih]
      · rw [List.cons_append, linesFrom, linesFrom, ih]
        all_goals exact feed

end TwinView.Text
