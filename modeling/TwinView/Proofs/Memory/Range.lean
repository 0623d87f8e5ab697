import TwinView.Memory.Slot

/-!
Ranges of a view. How far an address lies behind the base of a view decides everything about it, also where
the sum of base and size is no word. A range that ends within the region is accepted as a whole: it can be
written, made coherent and read back.
-/

namespace TwinView

namespace ViewPair

theorem offset_exact (views : ViewPair) (view : View) (address : UInt64) :
    views.offset view address =
      if (address - views.base view).toNat < views.size.toNat then
        .ok (address - views.base view)
      else .error (.foreignAddress address) := by
  simp only [offset, UInt64.lt_iff_toNat_lt]

/-- The range lies inside the executable view as a whole. An empty one still has to start there. -/
def Covers (views : ViewPair) (exec len : UInt64) : Prop :=
  (exec - views.base .executable).toNat < views.size.toNat ∧
    (exec - views.base .executable).toNat + len.toNat ≤ views.size.toNat

instance (views : ViewPair) (exec len : UInt64) : Decidable (views.Covers exec len) :=
  inferInstanceAs (Decidable (_ ∧ _))

/-- The address that a refused range is blamed for: its start if that lies outside, otherwise its end. -/
def strayAddress (views : ViewPair) (exec len : UInt64) : UInt64 :=
  if (exec - views.base .executable).toNat < views.size.toNat then exec + len else exec

/-- The check of a range accepts the ranges that the view covers and no others. -/
theorem rangeOffset_exact (views : ViewPair) (exec len : UInt64) :
    views.rangeOffset exec len =
      if views.Covers exec len then .ok (exec - views.base .executable)
      else .error (.foreignAddress (views.strayAddress exec len)) := by
  rw [rangeOffset, offset_exact]
  by_cases inside : (exec - views.base .executable).toNat < views.size.toNat
  · have le := UInt64.le_iff_toNat_le.mpr (Nat.le_of_lt inside)
    have past : views.size - (exec - views.base .executable) < len ↔
        ¬ (exec - views.base .executable).toNat + len.toNat ≤ views.size.toNat := by
      rw [UInt64.lt_iff_toNat_lt, UInt64.toNat_sub_of_le _ _ le]
      omega
    by_cases fits : (exec - views.base .executable).toNat + len.toNat ≤ views.size.toNat <;>
      simp [Covers, strayAddress, inside, past, fits]
  · simp [Covers, strayAddress, inside]

end ViewPair

namespace Region

/-- The bytes that loads from the address and the addresses behind it give, as many as are asked for. -/
def read (region : Region) (view : View) : UInt64 → Nat → Option (List UInt8)
  | _, 0 => some []
  | address, count + 1 => do
      let byte ← region.load view address
      let rest ← read region view (address + 1) count
      pure (byte :: rest)

variable {region : Region} {view : View} {code : Code}

theorem load_inside {address : UInt64}
    (inside : (address - region.base view).toNat < region.size.toNat) :
    region.load view address = some (region.content.byteAt (address - region.base view).toNat) := by
  have found : region.views.offset view address = .ok (address - region.base view) :=
    (region.views.offset_exact view address).trans (if_pos inside)
  rw [load, found]

theorem load_offset (region : Region) (view : View) {offset : UInt64}
    (inside : offset < region.size) :
    region.load view (region.base view + offset) = some (region.content.byteAt offset.toNat) := by
  have back := Word.add_sub_base (region.base view) offset
  have within := UInt64.lt_iff_toNat_lt.mp inside
  rw [load_inside (by rwa [back]), back]

theorem read_inside {address : UInt64} {count : Nat}
    (inside : (address - region.base view).toNat + count ≤ region.size.toNat) :
    region.read view address count =
      some ((List.range' (address - region.base view).toNat count).map region.content.byteAt) := by
  induction count generalizing address with
  | zero => rfl
  | succ count ih =>
      have bounded := region.size.toNat_lt
      have advanced : (address + 1 - region.base view).toNat =
          (address - region.base view).toNat + 1 := by
        have one : (1 : UInt64).toNat = 1 := rfl
        rw [Word.add_sub_right_comm, UInt64.toNat_add, one]
        exact Nat.mod_eq_of_lt (by omega)
      have rest := @ih (address + 1) (by omega)
      rw [read, load_inside (by omega), rest, advanced]
      rfl

/-- A range reads as the given bytes if the content has them there, one by one. -/
theorem read_eq {address : UInt64} {bytes : List UInt8}
    (inside : (address - region.base view).toNat + bytes.length ≤ region.size.toNat)
    (held : ∀ index, (within : index < bytes.length) →
      region.content.byteAt ((address - region.base view).toNat + index) = bytes[index]) :
    region.read view address bytes.length = some bytes := by
  rw [read_inside inside]
  congr 1
  apply List.ext_getElem
  · simp
  · intro index _ within
    simpa using held index within

/-- The address that a refused range is blamed for, counted from the base. -/
theorem stray_relative (region : Region) (offset len : UInt64) :
    region.views.strayAddress (region.base .executable + offset) len - region.base .executable =
      if offset.toNat < region.size.toNat then offset + len else offset := by
  have back : region.base .executable + offset - region.views.base .executable = offset :=
    Word.add_sub_base _ _
  have same : region.views.size = region.size := rfl
  rw [ViewPair.strayAddress, back, same]
  split
  · rw [UInt64.add_assoc, Word.add_sub_base]
  · exact back

theorem covers_relative (region : Region) (offset len : UInt64) :
    region.views.Covers (region.base .executable + offset) len ↔
      offset.toNat < region.size.toNat ∧ offset.toNat + len.toNat ≤ region.size.toNat := by
  have back : region.base .executable + offset - region.views.base .executable = offset :=
    Word.add_sub_base _ _
  rw [ViewPair.Covers, back]
  rfl

theorem write_exact (region : Region) (exec : UInt64) (code : Code) :
    write exec code region =
      if region.views.Covers exec code.size then
        .ok () (region.store (exec - region.base .executable) code)
      else .error (.foreignAddress (region.views.strayAddress exec code.size)) region := by
  have checked := region.views.rangeOffset_exact exec code.size
  by_cases covered : region.views.Covers exec code.size
  · -- Going to the writable view and back again wraps twice, and the offset survives it.
    have back : region.views.writableBase + (exec - region.base .executable) -
        region.base .writable = exec - region.base .executable :=
      Word.add_sub_base _ _
    rw [if_pos covered] at checked ⊢
    simp only [write, ViewPair.rangeAcross, checked, Except.map]
    exact congrArg (fun offset => EStateM.Result.ok () (region.store offset code)) back
  · rw [if_neg covered] at checked ⊢
    simp only [write, ViewPair.rangeAcross, checked, Except.map]

theorem place_exact (region : Region) (code : Code) (offset : UInt64) :
    place code offset region =
      if offset.toNat + code.bytes.length ≤ region.size.toNat then .ok () (region.store offset code)
      else .error (.foreignAddress (region.base .writable + offset)) region := by
  unfold place
  cases sum : Word.add? offset code.size with
  | none =>
      -- An end that is no word lies behind every region.
      have beyond := Word.add?_eq_none.mp sum
      have bounded : region.size.toNat < UInt64.size := region.size.toNat_lt
      rw [Code.size_toNat] at beyond
      rw [if_neg (by omega)]
  | some finish =>
      have exactly := Word.add?_eq_some sum
      rw [Code.size_toNat] at exactly
      simp only [UInt64.le_iff_toNat_le, exactly]

theorem synchronize_exact (region : Region) (exec len : UInt64) :
    synchronize exec len region =
      if region.views.Covers exec len then .ok () region
      else .error (.foreignAddress (region.views.strayAddress exec len)) region := by
  have checked := region.views.rangeOffset_exact exec len
  by_cases covered : region.views.Covers exec len
  · rw [if_pos covered] at checked ⊢
    simp only [synchronize, checked, flush]
  · rw [if_neg covered] at checked ⊢
    simp only [synchronize, checked]

theorem store_base (offset : UInt64) : (region.store offset code).base view = region.base view := rfl

theorem store_size (offset : UInt64) : (region.store offset code).size = region.size := rfl

/-- What a store that fits has put there is read back through either view. -/
theorem read_store {offset : UInt64}
    (fits : offset.toNat + code.bytes.length ≤ region.size.toNat) :
    (region.store offset code).read view (region.base view + offset) code.bytes.length =
      some code.bytes := by
  have back : region.base view + offset - (region.store offset code).base view = offset :=
    Word.add_sub_base _ _
  apply read_eq
  · rwa [back, store_size]
  · intro index within
    have here : offset.toNat + index < offset.toNat + code.bytes.length :=
      Nat.add_lt_add_left within _
    rw [back]
    simp only [store]
    rw [Bytes.byteAt_store, if_pos ⟨Nat.le_add_right _ _, here⟩, Nat.add_sub_cancel_left,
      ← List.getElem_eq_getD 0]

theorem read_stored {exec : UInt64} (covered : region.views.Covers exec code.size) :
    (region.store (exec - region.base .executable) code).read .executable exec code.bytes.length =
      some code.bytes := by
  have inside : (exec - region.base .executable).toNat + code.bytes.length ≤ region.size.toNat := by
    have bounded := covered.2
    rwa [Code.size_toNat] at bounded
  have forth : region.base .executable + (exec - region.base .executable) = exec := by
    rw [UInt64.add_comm, UInt64.sub_add_cancel]
  have stored := @read_store region .executable code _ inside
  rwa [forth] at stored

/-- A store leaves what it does not cover as it was. -/
theorem load_store_outside {offset place : UInt64} (inside : place < region.size)
    (outside : ¬ (offset ≤ place ∧ place.toNat < offset.toNat + code.bytes.length)) :
    (region.store offset code).load view (region.base view + place) =
      region.load view (region.base view + place) := by
  have here := load_offset (region.store offset code) view inside
  rw [store_base] at here
  rw [here, load_offset region view inside]
  rw [UInt64.le_iff_toNat_le] at outside
  simp only [store]
  rw [Bytes.byteAt_store, if_neg outside]

end Region

namespace Slot

/-- An operation that checks before it changes anything, on the region of a filled slot. -/
theorem run_onRegion {operation : EStateM Fault Region Unit} {region next : Region} {fault : Fault}
    {accepted : Prop} [Decidable accepted]
    (checked : operation region = if accepted then .ok () next else .error fault region) :
    (onRegion operation).run ⟨some region⟩ =
      if accepted then .ok () ⟨some next⟩ else .error fault ⟨some region⟩ := by
  by_cases accepts : accepted
  · rw [if_pos accepts] at checked ⊢
    simp only [EStateM.run, onRegion, checked]
  · rw [if_neg accepts] at checked ⊢
    simp only [EStateM.run, onRegion, checked]

end Slot

end TwinView
