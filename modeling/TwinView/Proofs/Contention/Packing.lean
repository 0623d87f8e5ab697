import TwinView.Proofs.Contention.Sequence

/-!
The same request again and again. The first range starts at the ceiling of the cursor, and each further one starts a
stride behind the one before it, which is the length rounded up to the alignment. So the ranges are as dense as the
alignment lets them be, and the calls succeed until the next range would not end within the region. The last range is
not rounded up: room for its bytes is enough. From there on the cursor stays, and so does the refusal.
-/

namespace TwinView.Contention.Reservation

open TwinView.Alignment (ceiling)

/-- How many ranges of a length end within the size, if the first one starts at `first` and the others follow at the
given distance. -/
def fitting (size first stride len : Nat) : Nat :=
  if first + len ≤ size then 1 + (size - first - len) / stride else 0

theorem lt_fitting_iff (size first len : Nat) {stride : Nat} (positive : 0 < stride) (index : Nat) :
    index < fitting size first stride len ↔ first + index * stride + len ≤ size := by
  unfold fitting
  split
  next fits =>
    rw [Nat.add_comm 1, Nat.lt_succ_iff, Nat.le_div_iff_mul_le positive]
    omega
  next full =>
    constructor
    · intro below
      exact absurd below (Nat.not_lt_zero index)
    · intro fits
      omega

namespace Request

/-- Where the first range starts. -/
def first (request : Request) (cursor : Cursor) : Nat :=
  ceiling cursor.used.toNat request.align.toNat

/-- How far the starts of two ranges are apart. -/
def stride (request : Request) : Nat :=
  ceiling request.len.toNat request.align.toNat

/-- Where the range of the given number ends. -/
def finish (request : Request) (cursor : Cursor) (index : Nat) : Nat :=
  request.first cursor + index * request.stride + request.len.toNat

/-- Where the cursor stands once so many of the requests have been granted. -/
def standing (request : Request) (cursor : Cursor) : Nat → Cursor
  | 0 => cursor
  | count + 1 => ⟨.ofNat (request.finish cursor count)⟩

def address (request : Request) (region : Region) (cursor : Cursor) (index : Nat) : UInt64 :=
  region.base .executable + .ofNat (request.first cursor + index * request.stride)

section Positions

variable {request : Request} {region : Region} {cursor : Cursor} {count : Nat}

theorem stride_pos (valid : Cursor.IsValid request.len request.align) : 0 < request.stride :=
  Nat.lt_of_lt_of_le valid.1 (Alignment.le_ceiling _ (Nat.pos_of_isPowerOfTwo valid.2))

theorem finish_toNat (fits : request.finish cursor count ≤ region.size.toNat) :
    (request.standing cursor (count + 1)).used.toNat = request.finish cursor count :=
  UInt64.toNat_ofNat_of_lt' (Nat.lt_of_le_of_lt fits region.size.toNat_lt)

theorem standing_toNat
    (fits : ∀ index < count, request.finish cursor index ≤ region.size.toNat) :
    (request.standing cursor count).used.toNat =
      if count = 0 then cursor.used.toNat else request.finish cursor (count - 1) := by
  cases count with
  | zero => rfl
  | succ count => exact finish_toNat (fits count (Nat.lt_succ_self count))

/-- The next range starts a stride behind the last one, since that one started at a multiple. -/
theorem ceiling_standing
    (fits : ∀ index < count, request.finish cursor index ≤ region.size.toNat) :
    ceiling (request.standing cursor count).used.toNat request.align.toNat =
      request.first cursor + count * request.stride := by
  cases count with
  | zero => rw [Nat.zero_mul, Nat.add_zero]; rfl
  | succ count =>
      have aligned : request.align.toNat ∣ request.first cursor + count * request.stride :=
        Nat.dvd_add (Alignment.dvd_ceiling _ _) (Nat.dvd_mul_left_of_dvd (Alignment.dvd_ceiling _ _) count)
      rw [finish_toNat (fits count (Nat.lt_succ_self count)), finish, Alignment.ceiling_add aligned,
        Nat.succ_mul, ← Nat.add_assoc]
      rfl

theorem address_toNat (fits : request.finish cursor count ≤ region.size.toNat) :
    (request.address region cursor count - region.base .executable).toNat =
      request.first cursor + count * request.stride := by
  have below : request.first cursor + count * request.stride < UInt64.size := by
    have bounded := region.size.toNat_lt
    have words : UInt64.size = 2 ^ 64 := rfl
    unfold finish at fits
    omega
  rw [address, Word.add_sub_base]
  exact UInt64.toNat_ofNat_of_lt' below

end Positions

end Request

section Calls

variable {region : Region} {request : Request} {cursor : Cursor}

def served (region : Region) (request : Request) (cursor : Cursor) (index : Nat) : Finished :=
  ⟨request, .ok (request.address region cursor index)⟩

def refused (region : Region) (request : Request) (cursor : Cursor) : Finished :=
  ⟨request, .error (.regionFull request.len (cursor.left region.size))⟩

theorem ran_served (valid : Cursor.IsValid request.len request.align) {count : Nat}
    (fits : ∀ index < count, request.finish cursor index ≤ region.size.toNat) :
    Ran region cursor ((List.range count).map (served region request cursor))
      (request.standing cursor count) := by
  induction count with
  | zero => exact Ran.none cursor
  | succ count ih =>
      have earlier : ∀ index < count, request.finish cursor index ≤ region.size.toNat := by
        intro index below
        exact fits index (Nat.lt_succ_of_lt below)
      have inside : request.first cursor + count * request.stride + request.len.toNat ≤
          region.size.toNat := fits count (Nat.lt_succ_self count)
      have granted := Cursor.reserve_exact region (request.standing cursor count) valid.1
        (Alignment.isPowerOfTwo_iff.mpr valid.2)
      rw [Request.ceiling_standing earlier, if_pos inside] at granted
      rw [List.range_succ, List.map_append]
      apply (ih earlier).snoc
      simp only [whole, served, EStateM.run, granted]
      rfl

theorem ran_refused (valid : Cursor.IsValid request.len request.align)
    (full : region.size.toNat < ceiling cursor.used.toNat request.align.toNat + request.len.toNat)
    (count : Nat) :
    Ran region cursor (List.replicate count (refused region request cursor)) cursor := by
  have same : whole region request cursor =
      (.error (.regionFull request.len (cursor.left region.size)), cursor) := by
    simp only [whole, EStateM.run, Cursor.reserve_unfit valid full]
    rfl
  induction count with
  | zero => exact Ran.none cursor
  | succ count ih => exact Ran.call same ih

/-- For how many of the requests there is room. -/
def Request.room (request : Request) (region : Region) (cursor : Cursor) : Nat :=
  fitting region.size.toNat (request.first cursor) request.stride request.len.toNat

theorem Request.lt_room_iff (valid : Cursor.IsValid request.len request.align) (index : Nat) :
    index < request.room region cursor ↔ request.finish cursor index ≤ region.size.toNat :=
  lt_fitting_iff _ _ _ (stride_pos valid) index

theorem Request.fits_of_room (valid : Cursor.IsValid request.len request.align) (count : Nat) :
    ∀ index < min count (request.room region cursor), request.finish cursor index ≤ region.size.toNat := by
  intro index below
  apply (request.lt_room_iff valid index).mp
  exact Nat.lt_of_lt_of_le below (Nat.min_le_right count _)

/-- Of calls that are all alike, the first ones are granted, as many as there is room for, and all others are
refused. -/
theorem ran_alike (valid : Cursor.IsValid request.len request.align) (count : Nat) :
    let granted := min count (request.room region cursor)
    let last := request.standing cursor granted
    Ran region cursor
      ((List.range granted).map (served region request cursor) ++
        List.replicate (count - granted) (refused region request last)) last := by
  intro granted last
  have fits : ∀ index < granted, request.finish cursor index ≤ region.size.toNat :=
    request.fits_of_room valid count
  apply (ran_served valid fits).append
  rcases Nat.le_total count (request.room region cursor) with few | many
  · have none : count - granted = 0 := by omega
    rw [none]
    exact Ran.none last
  · apply ran_refused valid
    have all : granted = request.room region cursor := Nat.min_eq_right many
    have beyond : ¬ request.finish cursor granted ≤ region.size.toNat := by
      rw [← Request.lt_room_iff valid, all]
      exact Nat.lt_irrefl _
    rw [Request.ceiling_standing fits]
    exact Nat.lt_of_not_le beyond

theorem inTurn_alike (valid : Cursor.IsValid request.len request.align) (count : Nat) :
    let granted := min count (request.room region cursor)
    let last := request.standing cursor granted
    inTurn region (List.replicate count request) cursor =
      ((List.range granted).map (served region request cursor) ++
        List.replicate (count - granted) (refused region request last), last) := by
  intro granted last
  have ran : Ran region cursor _ last := ran_alike valid count
  have ones : ((List.range granted).map (served region request cursor)).map Finished.request =
      List.replicate granted request := by
    apply List.eq_replicate_iff.mpr
    simp [served]
  have asked : ((List.range granted).map (served region request cursor) ++
      List.replicate (count - granted) (refused region request last)).map Finished.request =
        List.replicate count request := by
    have all : granted + (count - granted) = count := by omega
    rw [List.map_append, ones, List.map_replicate, refused, List.replicate_append_replicate, all]
  rw [← asked]
  exact ran.inTurn_eq

end Calls

/-- The address that a call was granted. -/
def Finished.address? (call : Finished) : Option UInt64 := call.outcome.toOption

theorem reserveMany_eq_inTurn (region : Region) (request : Request) (count : Nat) (cursor : Cursor) :
    Cursor.reserveMany ⟨some region⟩ request.len request.align count cursor =
      ((inTurn region (List.replicate count request) cursor).1.filterMap Finished.address?,
        (inTurn region (List.replicate count request) cursor).2) := by
  induction count generalizing cursor with
  | zero => rfl
  | succ count ih =>
      cases reserved : Cursor.reserve ⟨some region⟩ request.len request.align cursor with
      | ok address moved =>
          simp only [Cursor.reserveMany, List.replicate_succ, inTurn, whole, EStateM.run, reserved, ih moved]
          rfl
      | error fault same =>
          simp only [Cursor.reserveMany, List.replicate_succ, inTurn, whole, EStateM.run, reserved, ih same]
          rfl

/-- Calls that are all alike are granted one after the other until no further range fits, and all later ones are
refused. The ranges follow each other at the distance of one stride, so their number is known beforehand, and the
cursor stands at the end of the last one, or where it stood if there is none. -/
theorem identical_requests_packed (region : Region) (len align : UInt64) (cursor : Cursor) (count : Nat)
    (valid : Cursor.IsValid len align) :
    let request : Request := ⟨len, align⟩
    let first := ceiling cursor.used.toNat align.toNat
    let stride := ceiling len.toNat align.toNat
    let granted := min count (fitting region.size.toNat first stride len.toNat)
    ∃ addresses last,
      inTurn region (List.replicate count request) cursor =
        (addresses.map (⟨request, .ok ·⟩) ++ List.replicate (count - granted)
          ⟨request, .error (.regionFull len (last.left region.size))⟩, last) ∧
      Cursor.reserveMany ⟨some region⟩ len align count cursor = (addresses, last) ∧
      addresses.map (fun address => (address - region.base .executable).toNat) =
        (List.range granted).map (first + · * stride) ∧
      last.used.toNat =
        if granted = 0 then cursor.used.toNat else first + (granted - 1) * stride + len.toNat := by
  intro request first stride granted
  let addresses := (List.range granted).map (request.address region cursor)
  let last := request.standing cursor granted
  have turned : inTurn region (List.replicate count request) cursor =
      (addresses.map (⟨request, .ok ·⟩) ++ List.replicate (count - granted)
        ⟨request, .error (.regionFull len (last.left region.size))⟩, last) := by
    rw [inTurn_alike valid count, List.map_map]
    rfl
  have fits : ∀ index < granted, request.finish cursor index ≤ region.size.toNat :=
    request.fits_of_room valid count
  refine ⟨addresses, last, turned, ?_, ?_, Request.standing_toNat fits⟩
  · have many := reserveMany_eq_inTurn region request count cursor
    rw [turned] at many
    refine many.trans ?_
    simp [Finished.address?, Except.toOption, List.filterMap_append, Function.comp_def]
  · rw [List.map_map]
    apply List.map_congr_left
    intro index member
    exact Request.address_toNat (fits index (List.mem_range.mp member))

/-- Five strides of sixteen bytes and ten bytes more end two bytes before the end of the region. -/
theorem last_range_unpadded :
    let region : Region := ⟨⟨0x10000, 0x80000, 100⟩, 3, Bytes.zeros⟩
    Cursor.IsValid 10 8 ∧ ∃ addresses : List UInt64,
      inTurn region (List.replicate 9 ⟨10, 8⟩) ⟨5⟩ =
        (addresses.map (⟨⟨10, 8⟩, .ok ·⟩) ++ List.replicate 3 ⟨⟨10, 8⟩, .error (.regionFull 10 2)⟩,
          ⟨98⟩) ∧
      addresses.map (fun address => (address - 0x80000).toNat) = [8, 24, 40, 56, 72, 88] := by
  intro region
  have valid : Cursor.IsValid 10 8 := ⟨by decide, 3, rfl⟩
  have start : ceiling (Cursor.used ⟨5⟩).toNat (8 : UInt64).toNat = 8 := by decide
  have stride : ceiling (10 : UInt64).toNat (8 : UInt64).toNat = 16 := by decide
  have room : min 9 (fitting region.size.toNat 8 16 (10 : UInt64).toNat) = 6 := by decide
  obtain ⟨addresses, last, turned, _, starts, used⟩ := identical_requests_packed region 10 8 ⟨5⟩ 9 valid
  rw [start, stride, room] at turned starts used
  obtain rfl : last = ⟨98⟩ := congrArg Cursor.mk (UInt64.toNat_inj.mp used)
  have left : Cursor.left region.size ⟨98⟩ = 2 := by decide
  rw [left] at turned
  exact ⟨valid, addresses, turned, starts⟩

end TwinView.Contention.Reservation
