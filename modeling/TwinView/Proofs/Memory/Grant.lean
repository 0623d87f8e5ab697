import TwinView.Memory.Cursor
import TwinView.Proofs.Alignment
import TwinView.Proofs.Memory.Range

/-!
What a cursor grants, in numbers without bound. The arithmetic on words neither wraps into a grant nor refuses
a range that fits, so the next range starts at the ceiling of the cursor and is granted exactly if it ends
within the region.
-/

namespace TwinView.Cursor

open TwinView.Alignment (ceiling)

theorem next_exact (size len offset : UInt64) {align : UInt64}
    (power : Word.isPowerOfTwo align = true) :
    next size len align offset =
      if ceiling offset.toNat align.toNat + len.toNat ≤ size.toNat then
        some ⟨.ofNat (ceiling offset.toNat align.toNat),
          .ofNat (ceiling offset.toNat align.toNat + len.toNat)⟩
      else none := by
  have bounded := size.toNat_lt
  cases padding : Word.add? offset (align - 1) with
  | none =>
      -- The padding left the words, so the ceiling has left them as well.
      have beyond := Alignment.size_le_ceiling offset power (by
        rw [← Alignment.align_pred power]
        exact Word.add?_eq_none.mp padding)
      have unfit : ¬ ceiling offset.toNat align.toNat + len.toNat ≤ size.toNat := by
        have words : UInt64.size = 2 ^ 64 := rfl
        omega
      simp [next, padding, unfit]
  | some padded =>
      have start : (padded &&& ~~~(align - 1)).toNat = ceiling offset.toNat align.toNat := by
        rw [Alignment.clear_low_exact padded power, Word.add?_eq_some padding,
          Alignment.align_pred power]
        rfl
      have started : UInt64.ofNat (ceiling offset.toNat align.toNat) = padded &&& ~~~(align - 1) := by
        rw [← start, UInt64.ofNat_toNat]
      cases ending : Word.add? (padded &&& ~~~(align - 1)) len with
      | none =>
          have beyond := Word.add?_eq_none.mp ending
          have unfit : ¬ ceiling offset.toNat align.toNat + len.toNat ≤ size.toNat := by
            have words : UInt64.size = 2 ^ 64 := rfl
            omega
          simp [next, padding, ending, unfit]
      | some finish =>
          have ended : finish.toNat = ceiling offset.toNat align.toNat + len.toNat := by
            rw [Word.add?_eq_some ending, start]
          rw [← ended, UInt64.ofNat_toNat, started]
          by_cases inside : finish.toNat ≤ size.toNat
          · have open' : ¬ size < finish := by
              rw [UInt64.lt_iff_toNat_lt]
              omega
            simp [next, padding, ending, inside, open']
          · have past : size < finish := by
              rw [UInt64.lt_iff_toNat_lt]
              omega
            simp [next, padding, ending, inside, past]

theorem checkRequest_valid {len align : UInt64} (nonempty : 0 < len.toNat)
    (power : Word.isPowerOfTwo align = true) : checkRequest len align = .ok () := by
  have some : len ≠ 0 := by
    rintro rfl
    exact Nat.lt_irrefl 0 nonempty
  rw [checkRequest, if_neg some, if_pos power]

/-- A valid request is granted exactly if its range ends within the region. -/
theorem reserve_exact (region : Region) {len align : UInt64} (before : Cursor)
    (nonempty : 0 < len.toNat) (power : Word.isPowerOfTwo align = true) :
    reserve ⟨some region⟩ len align before =
      if ceiling before.used.toNat align.toNat + len.toNat ≤ region.size.toNat then
        .ok (region.base .executable + .ofNat (ceiling before.used.toNat align.toNat))
          ⟨.ofNat (ceiling before.used.toNat align.toNat + len.toNat)⟩
      else .error (.regionFull len (before.left region.size)) before := by
  have checked := checkRequest_valid nonempty power
  have following := next_exact region.size len before.used power
  split at following <;> simp_all [reserve, Slot.owned, Except.bind]

/-- A reservation that succeeded: the range behind the cursor, in the region of the slot, with the address of
its first byte. -/
structure Grants (slot : Slot) (len align : UInt64) (before : Cursor) (region : Region)
    (address : UInt64) (after : Cursor) : Prop where
  owned : slot.region = some region
  nonempty : 0 < len.toNat
  power : Word.isPowerOfTwo align = true
  start : (address - region.base .executable).toNat = ceiling before.used.toNat align.toNat
  finish : after.used.toNat = ceiling before.used.toNat align.toNat + len.toNat
  inside : after.used.toNat ≤ region.size.toNat

theorem grants_of_fits {region : Region} {len align : UInt64} {before : Cursor}
    (nonempty : 0 < len.toNat) (power : Word.isPowerOfTwo align = true)
    (fits : ceiling before.used.toNat align.toNat + len.toNat ≤ region.size.toNat) :
    Grants ⟨some region⟩ len align before region
      (region.base .executable + .ofNat (ceiling before.used.toNat align.toNat))
      ⟨.ofNat (ceiling before.used.toNat align.toNat + len.toNat)⟩ := by
  have bounded : ceiling before.used.toNat align.toNat + len.toNat < UInt64.size :=
    Nat.lt_of_le_of_lt fits region.size.toNat_lt
  have started : (UInt64.ofNat (ceiling before.used.toNat align.toNat)).toNat =
      ceiling before.used.toNat align.toNat := UInt64.toNat_ofNat_of_lt' (by omega)
  have finished := UInt64.toNat_ofNat_of_lt' bounded
  refine ⟨rfl, nonempty, power, ?_, finished, ?_⟩
  · rw [Word.add_sub_base, started]
  · rwa [finished]

/-- Why a reservation is refused. -/
inductive Refuses (slot : Slot) (len align : UInt64) (before : Cursor) : Fault → Prop where
  | empty : len = 0 → Refuses slot len align before (.badSize len)
  | unaligned : 0 < len.toNat → Word.isPowerOfTwo align = false →
      Refuses slot len align before (.badSize align)
  | missing : 0 < len.toNat → Word.isPowerOfTwo align = true → slot.region = none →
      Refuses slot len align before .noRegion
  | full {region : Region} : 0 < len.toNat → Word.isPowerOfTwo align = true →
      slot.region = some region →
        region.size.toNat < ceiling before.used.toNat align.toNat + len.toNat →
          Refuses slot len align before (.regionFull len (before.left region.size))

/-- A reservation is refused and leaves the cursor, or it grants a range. -/
theorem reserve_cases (slot : Slot) (len align : UInt64) (before : Cursor) :
    (∃ fault, reserve slot len align before = .error fault before ∧
      Refuses slot len align before fault) ∨
      ∃ region address after, reserve slot len align before = .ok address after ∧
        Grants slot len align before region address after := by
  by_cases empty : len = 0
  · refine Or.inl ⟨.badSize len, ?_, Refuses.empty empty⟩
    simp only [reserve, checkRequest, if_pos empty, Except.bind]
  have nonempty : 0 < len.toNat := Nat.pos_of_ne_zero fun zero => empty (UInt64.toNat_inj.mp zero)
  cases power : Word.isPowerOfTwo align with
  | false =>
      refine Or.inl ⟨.badSize align, ?_, Refuses.unaligned nonempty power⟩
      simp [reserve, checkRequest, empty, power, Except.bind]
  | true =>
      rcases slot with ⟨_ | region⟩
      · refine Or.inl ⟨.noRegion, ?_, Refuses.missing nonempty power rfl⟩
        simp only [reserve, checkRequest_valid nonempty power, Except.bind, Slot.owned]
      · have reserved := reserve_exact region before nonempty power
        split at reserved
        · rename_i fits
          exact Or.inr ⟨region, _, _, reserved, grants_of_fits nonempty power fits⟩
        · rename_i unfit
          exact Or.inl ⟨_, reserved, Refuses.full nonempty power rfl (Nat.lt_of_not_le unfit)⟩

section Outcomes

variable {slot : Slot} {len align address : UInt64} {before after : Cursor} {fault : Fault}

theorem reserve_error_same (failed : reserve slot len align before = .error fault after) :
    after = before := by
  rcases reserve_cases slot len align before with ⟨_, same, _⟩ | ⟨_, _, _, granted, _⟩
  · rw [same] at failed
    cases failed
    rfl
  · rw [granted] at failed
    cases failed

theorem Refuses.no_caller_bug (refuses : Refuses slot len align before fault) :
    fault.isCallerBug = false := by
  cases refuses <;> rfl

/-- A reservation is given no address, so it never blames its caller for one. -/
theorem reserve_blameless (failed : reserve slot len align before = .error fault after) :
    fault.isCallerBug = false := by
  rcases reserve_cases slot len align before with ⟨_, same, refuses⟩ | ⟨_, _, _, granted, _⟩
  · rw [same] at failed
    cases failed
    exact refuses.no_caller_bug
  · rw [granted] at failed
    cases failed

variable {region : Region} (grants : Grants slot len align before region address after)
include grants

theorem Grants.behind : before.used.toNat ≤ ceiling before.used.toNat align.toNat :=
  Alignment.le_ceiling _ (Alignment.align_pos grants.power)

theorem Grants.advances : before.used.toNat ≤ after.used.toNat := by
  rw [grants.finish]
  exact Nat.le_trans grants.behind (Nat.le_add_right _ _)

/-- Every check of a range accepts what a cursor has granted. -/
theorem Grants.covers : region.views.Covers address len := by
  have start := grants.start
  have finish := grants.finish
  have inside := grants.inside
  have nonempty := grants.nonempty
  rw [finish, ← start] at inside
  change _ ≤ region.views.size.toNat at inside
  change _ < region.views.size.toNat ∧ _ ≤ region.views.size.toNat
  exact ⟨Nat.lt_of_lt_of_le (Nat.lt_add_of_pos_right nonempty) inside, inside⟩

end Outcomes

section Exactness

variable (region : Region) (len align : UInt64) (cursor : Cursor)

/-- Some bytes are asked for, aligned to a power of two. -/
def IsValid (len align : UInt64) : Prop := 0 < len.toNat ∧ align.toNat.isPowerOfTwo

/-- The request is granted. -/
def Serves (slot : Slot) (len align : UInt64) (cursor : Cursor) : Prop :=
  ∃ address after, reserve slot len align cursor = .ok address after

theorem serves_iff : Serves ⟨some region⟩ len align cursor ↔
    IsValid len align ∧
      ceiling cursor.used.toNat align.toNat + len.toNat ≤ region.size.toNat := by
  constructor
  · rintro ⟨address, after, done⟩
    rcases reserve_cases ⟨some region⟩ len align cursor with
      ⟨fault, failed, _⟩ | ⟨owner, _, moved, _, grants⟩
    · rw [failed] at done
      cases done
    · cases grants.owned
      have inside := grants.inside
      rw [grants.finish] at inside
      exact ⟨⟨grants.nonempty, Alignment.isPowerOfTwo_iff.mp grants.power⟩, inside⟩
  · rintro ⟨⟨nonempty, power⟩, fits⟩
    have granted := reserve_exact region cursor nonempty (Alignment.isPowerOfTwo_iff.mpr power)
    rw [if_pos fits] at granted
    exact ⟨_, _, granted⟩

theorem granted_at {address : UInt64} {after : Cursor}
    (done : reserve ⟨some region⟩ len align cursor = .ok address after) :
    (address - region.base .executable).toNat = ceiling cursor.used.toNat align.toNat ∧
      after.used.toNat = ceiling cursor.used.toNat align.toNat + len.toNat := by
  rcases reserve_cases ⟨some region⟩ len align cursor with
    ⟨fault, failed, _⟩ | ⟨owner, _, moved, same, grants⟩
  · rw [failed] at done
    cases done
  · rw [same] at done
    cases done
    cases grants.owned
    exact ⟨grants.start, grants.finish⟩

theorem remaining_toNat :
    (cursor.remaining ⟨some region⟩).toNat = region.size.toNat - cursor.used.toNat :=
  Word.monus_toNat region.size cursor.used

theorem serves_unaligned_iff : Serves ⟨some region⟩ len 1 cursor ↔
    0 < len.toNat ∧ len.toNat ≤ (cursor.remaining ⟨some region⟩).toNat := by
  have one : (1 : UInt64).toNat = 1 := rfl
  rw [serves_iff, remaining_toNat, IsValid, one, Alignment.ceiling_one]
  constructor
  · rintro ⟨⟨nonempty, _⟩, fits⟩
    omega
  · rintro ⟨nonempty, fits⟩
    exact ⟨⟨nonempty, Nat.isPowerOfTwo_one⟩, by omega⟩

variable {region len align cursor}

/-- Room for the bytes and for the widest padding is enough, wherever the cursor stands. -/
theorem serves_of_room (valid : IsValid len align)
    (room : len.toNat + align.toNat - 1 ≤ (cursor.remaining ⟨some region⟩).toNat) :
    Serves ⟨some region⟩ len align cursor := by
  have positive := Nat.pos_of_isPowerOfTwo valid.2
  have nonempty := valid.1
  have below := Alignment.ceiling_lt cursor.used.toNat positive
  rw [remaining_toNat] at room
  rw [serves_iff]
  exact ⟨valid, by omega⟩

theorem reserve_unfit (valid : IsValid len align)
    (unfit : region.size.toNat < ceiling cursor.used.toNat align.toNat + len.toNat) :
    reserve ⟨some region⟩ len align cursor =
      .error (.regionFull len (cursor.remaining ⟨some region⟩)) cursor := by
  rw [reserve_exact region cursor valid.1 (Alignment.isPowerOfTwo_iff.mpr valid.2),
    if_neg (Nat.not_le.mpr unfit)]
  rfl

end Exactness

/-- A request is granted exactly if it is valid and its range, put at the first multiple of the alignment
behind the cursor, ends within the region. All sums here are of numbers without bound. So no sum that left the
words is ever taken for a range, and no range that fits is refused because of one. A valid request that does
not fit is told how much is left and moves nothing. -/
theorem granted_exactly_if_fitting (region : Region) (len align : UInt64) (cursor : Cursor) :
    let slot : Slot := ⟨some region⟩
    let up := ceiling cursor.used.toNat align.toNat
    let remaining := cursor.remaining slot
    (IsValid len align →
        align.toNat ∣ up ∧ cursor.used.toNat ≤ up ∧ up < cursor.used.toNat + align.toNat) ∧
      (Serves slot len align cursor ↔
        IsValid len align ∧ up + len.toNat ≤ region.size.toNat) ∧
      (∀ address after, reserve slot len align cursor = .ok address after →
        (address - region.base .executable).toNat = up ∧ after.used.toNat = up + len.toNat) ∧
      (IsValid len align → region.size.toNat < up + len.toNat →
        reserve slot len align cursor = .error (.regionFull len remaining) cursor) ∧
      remaining.toNat = region.size.toNat - cursor.used.toNat ∧
      (Serves slot len 1 cursor ↔ 0 < len.toNat ∧ len.toNat ≤ remaining.toNat) ∧
      (IsValid len align → len.toNat + align.toNat - 1 ≤ remaining.toNat →
        Serves slot len align cursor) := by
  intro slot up remaining
  refine ⟨?_, ?_, ?_, ?_, ?_, ?_, ?_⟩
  · intro valid
    have positive := Nat.pos_of_isPowerOfTwo valid.2
    exact ⟨Alignment.dvd_ceiling _ _, Alignment.le_ceiling _ positive,
      Alignment.ceiling_lt _ positive⟩
  · exact serves_iff region len align cursor
  · intro address after done
    exact granted_at region len align cursor done
  · intro valid unfit
    exact reserve_unfit valid unfit
  · exact remaining_toNat region cursor
  · exact serves_unaligned_iff region len cursor
  · intro valid room
    exact serves_of_room valid room

end TwinView.Cursor
