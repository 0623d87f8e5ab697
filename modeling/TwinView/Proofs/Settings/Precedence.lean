import TwinView.Proofs.Settings.Sources
import TwinView.Proofs.Text.Spelling

/-!
What three variables make of any settings. Each of them is not set, holds a value, or holds a text that is no
value. The reading goes through them in order and ends at the first that holds no value, so that what stands
behind it is never looked at. If there is none, the values take the place of what was there before, and the
one thing that can still be wrong is a size of zero.
-/

namespace TwinView

namespace Settings

/-- The text is the count with nothing but blanks around it. -/
def IsCount (text : String) (word : UInt64) : Prop :=
  ∃ body, Text.Padded body text.toList ∧ Text.Spells body word.toNat

/-- The text is the keyword of the profile in letters of either case, with nothing but blanks around it. -/
def IsProfile (text : String) (profile : Profile) : Prop :=
  ∃ body : List Char, Text.Padded body text.toList ∧
    body.map Char.toLower = (keyword profile).toList

/-- A value that is given by a text is the new one, and otherwise the old one stays. -/
def Replaced {α : Type} (given : Option String) (reads : String → α → Prop) (old new : α) : Prop :=
  match given with
  | none => new = old
  | some text => reads text new

/-- Every setting whose variable is set has the value that it holds, and the others are as they were. -/
structure Overridden (lookup : String → Option String) (settings result : Settings) : Prop where
  size : Replaced (lookup sizeVariable) IsCount settings.regionSize result.regionSize
  profile : Replaced (lookup profileVariable) IsProfile settings.profile result.profile
  timeout : Replaced (lookup timeoutVariable)
    (fun text timeout => ∃ millis, IsCount text millis ∧ timeout = some millis)
    settings.timeoutMillis result.timeoutMillis

inductive Variable where
  | size
  | profile
  | timeout

namespace Variable

def order : List Variable := [.size, .profile, .timeout]

def name : Variable → String
  | .size => sizeVariable
  | .profile => profileVariable
  | .timeout => timeoutVariable

def Accepts : Variable → String → Prop
  | .size, text | .timeout, text => ∃ word, IsCount text word
  | .profile, text => ∃ profile, IsProfile text profile

/-- How a text is refused that is no value of the variable. -/
def fault : Variable → String → SettingsFault
  | .size, text => .notByteCount text
  | .profile, text => .unknownProfile (Profile.canonical text.toList)
  | .timeout, text => .notMillisecondCount text

/-- The variable is not set or holds a value. -/
def Passes (lookup : String → Option String) (which : Variable) : Prop :=
  ∀ text, lookup which.name = some text → which.Accepts text

/-- Asks for the variable and puts its value into the settings. -/
def overriding (lookup : String → Option String) (settings : Settings) : Variable → Asking Settings
  | .size => override lookup sizeVariable sizeOfText resized settings
  | .profile => override lookup profileVariable (Profile.ofText ·.toList) profiled settings
  | .timeout => override lookup timeoutVariable millisOfText timed settings

end Variable

section Texts

variable {text : String} {word : UInt64} {profile : Profile}

theorem readWord_iff : Text.readWord (Text.trim text.toList) = some word ↔ IsCount text word :=
  Text.readWord_trim_iff

theorem readWord_refused (refused : ¬ ∃ word, IsCount text word) :
    Text.readWord (Text.trim text.toList) = none := by
  rw [Option.eq_none_iff_forall_ne_some]
  intro word read
  exact refused ⟨word, readWord_iff.mp read⟩

theorem sizeOfText_iff : sizeOfText text = .ok word ↔ IsCount text word := by
  rw [← readWord_iff, sizeOfText]
  cases Text.readWord (Text.trim text.toList) <;> simp

theorem millisOfText_iff : millisOfText text = .ok word ↔ IsCount text word := by
  rw [← readWord_iff, millisOfText]
  cases Text.readWord (Text.trim text.toList) <;> simp

theorem canonical_of_ofText {text : List Char} (read : Profile.ofText text = .ok profile) :
    Profile.canonical text = keyword profile := by
  rw [Profile.ofText] at read
  split at read
  next deferred =>
    cases read
    exact deferred
  next =>
    split at read <;> cases read
    assumption

theorem ofText_iff : Profile.ofText text.toList = .ok profile ↔ IsProfile text profile := by
  constructor
  · intro read
    have named := congrArg String.toList (canonical_of_ofText read)
    rw [Profile.canonical, String.toList_ofList, funext lowerAscii_eq] at named
    exact ⟨Text.trim text.toList, Text.trim_padded _, named⟩
  · rintro ⟨body, padded, cased⟩
    exact ofText_cased cased padded

theorem sizeOfText_refused (refused : ¬ ∃ word, IsCount text word) :
    sizeOfText text = .error (.notByteCount text) := by
  rw [sizeOfText, readWord_refused refused]

theorem millisOfText_refused (refused : ¬ ∃ word, IsCount text word) :
    millisOfText text = .error (.notMillisecondCount text) := by
  rw [millisOfText, readWord_refused refused]

theorem ofText_refused (refused : ¬ ∃ profile, IsProfile text profile) :
    Profile.ofText text.toList = .error (.unknownProfile (Profile.canonical text.toList)) := by
  cases read : Profile.ofText text.toList with
  | ok profile => exact absurd ⟨profile, ofText_iff.mp read⟩ refused
  | error fault =>
      rw [Profile.ofText] at read
      split at read
      · cases read
      · split at read <;> cases read
        rfl

end Texts

section One

variable {lookup : String → Option String} {name text : String} {settings : Settings}
  {names : List String} {α : Type} {decode : String → Except SettingsFault α}
  {place : Settings → α → Settings}

theorem override_unset (unset : lookup name = none) :
    (override lookup name decode place settings).run names = .ok settings (name :: names) := by
  rw [override, unset]
  rfl

theorem override_decoded {value : α} (found : lookup name = some text)
    (decoded : decode text = .ok value) :
    (override lookup name decode place settings).run names =
      .ok (place settings value) (name :: names) := by
  rw [override, found]
  simp only [decoded]
  rfl

theorem override_refused {fault : SettingsFault} (found : lookup name = some text)
    (refused : decode text = .error fault) :
    (override lookup name decode place settings).run names = .error fault (name :: names) := by
  rw [override, found]
  simp only [refused]
  rfl

/-- A value that the text gives is put into its field, and without a text the field is as it was. -/
theorem run_replaced {β : Type} {reads : String → β → Prop} {old new : β}
    (replaced : Replaced (lookup name) reads old new) (field : β → Settings)
    (decodes : ∀ text, reads text new → ∃ value, decode text = .ok value ∧
      place (field old) value = field new) :
    (override lookup name decode place (field old)).run names = .ok (field new) (name :: names) := by
  cases found : lookup name with
  | none =>
      rw [found] at replaced
      obtain rfl : new = old := replaced
      exact override_unset found
  | some text =>
      rw [found] at replaced
      obtain ⟨value, decoded, placed⟩ := decodes text replaced
      rw [override_decoded found decoded, placed]

theorem exists_replaced {β : Type} {reads : String → β → Prop}
    (accepted : ∀ text, lookup name = some text → ∃ value, reads text value) (old : β) :
    ∃ new, Replaced (lookup name) reads old new := by
  cases found : lookup name with
  | none => exact ⟨old, rfl⟩
  | some text => exact accepted text found

end One

namespace Variable

variable {lookup : String → Option String} {which : Variable} {text : String}

theorem run_passing (passes : which.Passes lookup) (settings : Settings) (names : List String) :
    ∃ next, (overriding lookup settings which).run names = .ok next (which.name :: names) := by
  cases found : lookup which.name with
  | none => cases which <;> exact ⟨_, override_unset found⟩
  | some text =>
      have accepted := passes text found
      cases which with
      | size =>
          obtain ⟨word, count⟩ := accepted
          exact ⟨_, override_decoded found (sizeOfText_iff.mpr count)⟩
      | profile =>
          obtain ⟨profile, named⟩ := accepted
          exact ⟨_, override_decoded found (ofText_iff.mpr named)⟩
      | timeout =>
          obtain ⟨word, count⟩ := accepted
          exact ⟨_, override_decoded found (millisOfText_iff.mpr count)⟩

theorem run_refusing (found : lookup which.name = some text) (refused : ¬ which.Accepts text)
    (settings : Settings) (names : List String) :
    (overriding lookup settings which).run names = .error (which.fault text) (which.name :: names) := by
  cases which with
  | size => exact override_refused found (sizeOfText_refused refused)
  | profile => exact override_refused found (ofText_refused refused)
  | timeout => exact override_refused found (millisOfText_refused refused)

/-- The first variable that refuses ends the reading, whatever comes behind it. -/
theorem run_first_refusing {earlier : List Variable} (passes : ∀ one ∈ earlier, one.Passes lookup)
    (found : lookup which.name = some text) (refused : ¬ which.Accepts text) (later : List Variable)
    (settings : Settings) (names : List String) :
    ((earlier ++ which :: later).foldlM (overriding lookup) settings).run names =
      .error (which.fault text) (((earlier ++ [which]).map name).reverse ++ names) := by
  induction earlier generalizing settings names with
  | nil =>
      simp only [List.nil_append, List.foldlM_cons, EStateM.run_bind, run_refusing found refused]
      rfl
  | cons one rest ih =>
      obtain ⟨next, passed⟩ := run_passing (passes one List.mem_cons_self) settings names
      have stopped := ih (fun other member => passes other (List.mem_cons_of_mem _ member)) next
        (one.name :: names)
      simp only [List.cons_append, List.foldlM_cons, EStateM.run_bind, passed, stopped]
      simp

theorem run_overridden {settings result : Settings} (overridden : Overridden lookup settings result)
    (names : List String) :
    (order.foldlM (overriding lookup) settings).run names =
      .ok result ((order.map name).reverse ++ names) := by
  -- Each variable finds its own field as it was, and those of the variables before it as they end.
  have sized : (overriding lookup settings .size).run names =
      .ok ⟨result.regionSize, settings.profile, settings.timeoutMillis⟩ (sizeVariable :: names) :=
    run_replaced overridden.size (fun size => ⟨size, settings.profile, settings.timeoutMillis⟩)
      fun text count => ⟨_, sizeOfText_iff.mpr count, rfl⟩
  have shaped (names : List String) :
      (overriding lookup ⟨result.regionSize, settings.profile, settings.timeoutMillis⟩ .profile).run
          names =
        .ok ⟨result.regionSize, result.profile, settings.timeoutMillis⟩ (profileVariable :: names) :=
    run_replaced overridden.profile (fun profile => ⟨result.regionSize, profile, settings.timeoutMillis⟩)
      fun text named => ⟨_, ofText_iff.mpr named, rfl⟩
  have limited (names : List String) :
      (overriding lookup ⟨result.regionSize, result.profile, settings.timeoutMillis⟩ .timeout).run
          names =
        .ok result (timeoutVariable :: names) :=
    run_replaced overridden.timeout (fun timeout => ⟨result.regionSize, result.profile, timeout⟩)
      fun text ⟨millis, count, given⟩ => ⟨millis, millisOfText_iff.mpr count, by rw [given]; rfl⟩
  simp only [order, List.foldlM_cons, List.foldlM_nil, EStateM.run_bind, sized, shaped, limited]
  rfl

theorem passes_of_replaced {α : Type} {reads : String → α → Prop} {old new : α}
    (replaced : Replaced (lookup which.name) reads old new)
    (accepts : ∀ text, reads text new → which.Accepts text) : which.Passes lookup := by
  intro text found
  rw [found] at replaced
  exact accepts text replaced

theorem passes_of_overridden {settings result : Settings}
    (overridden : Overridden lookup settings result) (which : Variable) : which.Passes lookup := by
  cases which with
  | size => exact passes_of_replaced overridden.size fun _ count => ⟨_, count⟩
  | profile => exact passes_of_replaced overridden.profile fun _ named => ⟨_, named⟩
  | timeout => exact passes_of_replaced overridden.timeout fun _ ⟨_, count, _⟩ => ⟨_, count⟩

theorem exists_overridden (passes : ∀ which : Variable, which.Passes lookup) (settings : Settings) :
    ∃ result, Overridden lookup settings result := by
  obtain ⟨size, sized⟩ := exists_replaced (passes .size) settings.regionSize
  obtain ⟨profile, shaped⟩ := exists_replaced (passes .profile) settings.profile
  have timeouts : ∀ text, lookup timeoutVariable = some text →
      ∃ timeout, ∃ millis, IsCount text millis ∧ timeout = some millis := by
    intro text found
    obtain ⟨millis, count⟩ := passes .timeout text found
    exact ⟨some millis, millis, count, rfl⟩
  obtain ⟨timeout, limited⟩ := exists_replaced timeouts settings.timeoutMillis
  exact ⟨⟨size, profile, timeout⟩, sized, shaped, limited⟩

theorem first_refusing (refuses : ¬ ∀ which : Variable, which.Passes lookup) :
    ∃ earlier which later text, order = earlier ++ which :: later ∧
      (∀ one ∈ earlier, one.Passes lookup) ∧ lookup which.name = some text ∧
        ¬ which.Accepts text := by
  classical
  obtain ⟨one, refusing⟩ := not_forall.mp refuses
  have ordered : one ∈ order := by cases one <;> simp [order]
  -- The search stops at the first that refuses, so all in front of it pass.
  have present : (order.find? fun which => ¬ which.Passes lookup).isSome = true :=
    List.find?_isSome.mpr ⟨one, ordered, decide_eq_true refusing⟩
  obtain ⟨which, first⟩ := Option.isSome_iff_exists.mp present
  obtain ⟨refused, earlier, later, split, passing⟩ := List.find?_eq_some_iff_append.mp first
  have refusing : ¬ which.Passes lookup := by simpa using refused
  obtain ⟨text, refused⟩ := not_forall.mp refusing
  obtain ⟨found, refused⟩ := Classical.not_imp.mp refused
  refine ⟨earlier, which, later, text, split, ?_, found, refused⟩
  intro one member
  simpa using passing one member

theorem fault_ne_zeroSize (which : Variable) (text : String) : which.fault text ≠ .zeroSize := by
  cases which <;> nofun

end Variable

section All

variable {lookup : String → Option String} {settings result : Settings}

theorem overrideWith_eq (lookup : String → Option String) (settings : Settings) :
    overrideWith lookup settings =
      (Variable.order.foldlM (Variable.overriding lookup) settings >>= (accept ·.checked)) := by
  simp only [Variable.order, List.foldlM_cons, List.foldlM_nil, bind_assoc, pure_bind]
  rfl

theorem overriddenBy_of_overridden (overridden : Overridden lookup settings result) :
    settings.overriddenBy lookup = result.checked ∧
      settings.asked lookup = Variable.order.map Variable.name := by
  have ran := Variable.run_overridden overridden []
  rw [overriddenBy, asked, overrideWith_eq, EStateM.run_bind]
  simp only [ran]
  cases result.checked with
  | ok settings => exact ⟨rfl, rfl⟩
  | error fault => exact ⟨rfl, rfl⟩

theorem overriddenBy_of_refusing {earlier later : List Variable} {which : Variable} {text : String}
    (order : Variable.order = earlier ++ which :: later)
    (passes : ∀ one ∈ earlier, one.Passes lookup) (found : lookup which.name = some text)
    (refused : ¬ which.Accepts text) :
    settings.overriddenBy lookup = .error (which.fault text) ∧
      settings.asked lookup = (earlier ++ [which]).map Variable.name := by
  have ran := Variable.run_first_refusing passes found refused later settings []
  rw [overriddenBy, asked, overrideWith_eq, order, EStateM.run_bind]
  simp only [ran, List.append_nil, List.reverse_reverse, and_self]

/-- Either all variables pass, or one of them is blamed. -/
theorem overriddenBy_cases (lookup : String → Option String) (settings : Settings) :
    (∃ result, Overridden lookup settings result ∧ settings.overriddenBy lookup = result.checked) ∨
      ∃ which text, settings.overriddenBy lookup = .error (Variable.fault which text) := by
  by_cases passes : ∀ which : Variable, which.Passes lookup
  · -- The size is only looked at with all values in place, so nothing but that check is left.
    obtain ⟨result, overridden⟩ := Variable.exists_overridden passes settings
    exact Or.inl ⟨result, overridden, (overriddenBy_of_overridden overridden).1⟩
  · obtain ⟨earlier, which, later, text, order, passing, found, refused⟩ :=
      Variable.first_refusing passes
    exact Or.inr ⟨which, text, (overriddenBy_of_refusing order passing found refused).1⟩

theorem overriddenBy_ok_iff : settings.overriddenBy lookup = .ok result ↔
    Overridden lookup settings result ∧ result.regionSize ≠ 0 := by
  constructor
  · intro read
    rcases overriddenBy_cases lookup settings with ⟨other, overridden, checks⟩ | ⟨which, text, blamed⟩
    · have passed := checks.symm.trans read
      obtain rfl := eq_of_checked passed
      exact ⟨overridden, checked_ok_iff.mp ⟨_, passed⟩⟩
    · rw [blamed] at read
      cases read
  · rintro ⟨overridden, sized⟩
    obtain ⟨other, passed⟩ := checked_ok_iff.mpr sized
    obtain rfl := eq_of_checked passed
    rw [(overriddenBy_of_overridden overridden).1, passed]

theorem overriddenBy_zero_iff : settings.overriddenBy lookup = .error .zeroSize ↔
    ∃ result, Overridden lookup settings result ∧ result.regionSize = 0 := by
  constructor
  · intro refused
    rcases overriddenBy_cases lookup settings with ⟨result, overridden, checks⟩ | ⟨which, text, blamed⟩
    · exact ⟨result, overridden, checked_zero_iff.mp (checks.symm.trans refused)⟩
    · rw [blamed] at refused
      exact absurd (Except.error.inj refused) (which.fault_ne_zeroSize text)
  · rintro ⟨result, overridden, empty⟩
    rw [(overriddenBy_of_overridden overridden).1, checked_zero_iff.mpr empty]

end All

/-- The variables are read by their grammar and in their order. A count is accepted exactly if it is an optional
plus sign with digits behind it that spell a word, and a profile exactly if it is one of the keywords in any
letters, blanks around them aside. The reading succeeds exactly if every variable that is set holds a value
and the size is not zero then, with these values in place of the old ones. Otherwise the first variable that
holds no value is blamed, and none behind it is asked for. A size of zero is blamed only where all pass. -/
theorem overrides_in_order (settings : Settings) (lookup : String → Option String) :
    (∀ text word, sizeOfText text = .ok word ↔ IsCount text word) ∧
      (∀ text word, millisOfText text = .ok word ↔ IsCount text word) ∧
      (∀ text profile, Profile.ofText text.toList = .ok profile ↔ IsProfile text profile) ∧
      (∀ result, settings.overriddenBy lookup = .ok result ↔
        Overridden lookup settings result ∧ result.regionSize ≠ 0) ∧
      ((∀ which : Variable, which.Passes lookup) ↔ ∃ result, Overridden lookup settings result) ∧
      ((∀ which : Variable, which.Passes lookup) →
        settings.asked lookup = Variable.order.map Variable.name) ∧
      (settings.overriddenBy lookup = .error .zeroSize ↔
        ∃ result, Overridden lookup settings result ∧ result.regionSize = 0) ∧
      ∀ earlier which later text, Variable.order = earlier ++ which :: later →
        (∀ one ∈ earlier, one.Passes lookup) → lookup which.name = some text →
          ¬ which.Accepts text →
            settings.overriddenBy lookup = .error (which.fault text) ∧
              settings.asked lookup = (earlier ++ [which]).map Variable.name := by
  refine ⟨fun _ _ => sizeOfText_iff, fun _ _ => millisOfText_iff, fun _ _ => ofText_iff,
    fun _ => overriddenBy_ok_iff, ⟨?_, ?_⟩, ?_, overriddenBy_zero_iff, ?_⟩
  · intro passes
    exact Variable.exists_overridden passes settings
  · rintro ⟨result, overridden⟩
    exact Variable.passes_of_overridden overridden
  · intro passes
    obtain ⟨result, overridden⟩ := Variable.exists_overridden passes settings
    exact (overriddenBy_of_overridden overridden).2
  · intro earlier which later text order passes found refused
    exact overriddenBy_of_refusing order passes found refused

/-- The profile is no keyword, so the timeout, which is no count either, is not asked for. -/
example :
    let lookup : String → Option String := fun name =>
      if name = sizeVariable then some "\u2003+007\n"
      else if name = profileVariable then some "Fast" else some "soon"
    Settings.default.overriddenBy lookup = .error (.unknownProfile "fast") ∧
      Settings.default.asked lookup = [sizeVariable, profileVariable] := by
  exact ⟨rfl, rfl⟩

end Settings

end TwinView
