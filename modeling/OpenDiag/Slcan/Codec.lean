import OpenDiag.Can
import OpenDiag.Utility

/-!
# Frames as SLCAN text

`slcan_parse_frame` and `slcan_print_frame` of `slcan.c`: a letter for the kind of frame, three or
eight digits for the identifier, one for the length, and two for each data byte.
-/

namespace OpenDiag.Slcan

/-- `SLCAN_LINE_MAX`. -/
def lineMax : Nat := 27

/-! ## The code -/

/-- `slcan_parse_frame`: nothing where it fails. -/
def parseFrame (buf : List UInt8) (rtr ext : Bool) : Option CanFrame :=
  let idLen := if ext then 8 else 3
  let len := (cString buf).length
  if len < idLen + 2 then none
  else
    match hexStringToU32Be (buf.drop 1) idLen with
    | none => none
    | some id =>
      let dlc := hexCharToInt (buf.getD (1 + idLen) 0)
      if dlc < 0 ∨ dlc > 8 then none
      else
        let id := if ext then (id &&& canEffMask) ||| canEffFlag else id &&& canSffMask
        let id := if rtr then id ||| canRtrFlag else id
        let frame : CanFrame := { id, dlc := dlc.toNat, data := .fill 8 0 }
        if rtr then some frame
        else
          let payload := buf.drop (2 + idLen)
          if (cString payload).length < dlc.toNat * 2 then none
          else
            let (count, bytes) := hexStringToU8Array payload (dlc.toNat * 2) 8
            if count ≠ dlc then none else some { frame with data := frame.data.store 0 bytes }

/-- The digits of an identifier, from the one at a shift on. -/
def printId (id : UInt32) (shifts : List UInt32) : List UInt8 :=
  shifts.map fun shift => hexval ((id >>> shift) &&& 0xf).toNat

/-- `slcan_print_frame`: the line with its carriage return. -/
def printFrame (frame : CanFrame) : List UInt8 :=
  let rtr := frame.id &&& canRtrFlag ≠ 0
  (if frame.id &&& canEffFlag ≠ 0 then
    (if rtr then ascii 'R' else ascii 'T') ::
      printId (frame.id &&& canEffMask) [28, 24, 20, 16, 12, 8, 4, 0]
  else
    (if rtr then ascii 'r' else ascii 't') :: printId (frame.id &&& canSffMask) [8, 4, 0]) ++
    [hexval (frame.dlc % 16)] ++
    (if rtr then [] else (frame.data.load 0 (min frame.dlc 8)).flatMap hexPair) ++ [ascii '\r']

/-! ## Frames that are printed -/

/-- A data or remote frame without any other flag, with zeros for the data it does not have. -/
structure Plain (frame : CanFrame) : Prop where
  dlc : frame.dlc ≤ 8
  id : if frame.id &&& canEffFlag ≠ 0 then
      frame.id &&& ~~~(canEffFlag ||| canRtrFlag ||| canEffMask) = 0
    else frame.id &&& ~~~(canRtrFlag ||| canSffMask) = 0
  data : ∀ i, (if frame.id &&& canRtrFlag ≠ 0 then 0 else frame.dlc) ≤ i →
    frame.data.cells.getD i 0 = 0

/-- What `slcan_parse_command` selects by the first letter of a line. -/
def letterKind (letter : UInt8) : Option (Bool × Bool) :=
  if letter = ascii 't' then some (false, false)
  else if letter = ascii 'T' then some (false, true)
  else if letter = ascii 'r' then some (true, false)
  else if letter = ascii 'R' then some (true, true)
  else none

theorem toNat_nibble_lt (id shift : UInt32) : ((id >>> shift) &&& 0xf).toNat < 16 := by
  have small : ((id >>> shift) &&& 0xf).toNat ≤ (0xf : UInt32).toNat := by
    rw [UInt32.toNat_and]
    exact Nat.and_le_right
  exact Nat.lt_succ_of_le small

/-- One digit that was written is read. -/
theorem hexDigits_printId_cons (val id shift : UInt32) (shifts : List UInt32) (rest : List UInt8) :
    hexDigits val (printId id (shift :: shifts) ++ rest) =
      hexDigits ((val <<< 4) ||| ((id >>> shift) &&& 0xf)) (printId id shifts ++ rest) := by
  have small := toNat_nibble_lt id shift
  rw [printId, List.map_cons, List.cons_append, hexDigits]
  simp only [hexCharToInt_hexval small]
  rw [if_neg (by omega), Int.toNat_natCast, UInt32.ofNat_toNat]
  rfl

/-- The digits of an identifier are read back. -/
theorem readId_ext (id : UInt32) (rest : List UInt8) :
    hexStringToU32Be (printId id [28, 24, 20, 16, 12, 8, 4, 0] ++ rest) 8 = some id := by
  have digits : (printId id [28, 24, 20, 16, 12, 8, 4, 0]).length = 8 := rfl
  rw [hexStringToU32Be, if_neg (by omega), List.take_left' digits,
    ← List.append_nil (printId id [28, 24, 20, 16, 12, 8, 4, 0])]
  simp only [hexDigits_printId_cons]
  rw [printId, List.map_nil, List.nil_append, hexDigits]
  congr 1
  apply UInt32.toBitVec_inj.mp
  ext i bound
  simp
  interval_cases i <;> simp

theorem readId_std (id : UInt32) (rest : List UInt8) :
    hexStringToU32Be (printId id [8, 4, 0] ++ rest) 3 = some (id &&& 0xFFF) := by
  have digits : (printId id [8, 4, 0]).length = 3 := rfl
  rw [hexStringToU32Be, if_neg (by omega), List.take_left' digits,
    ← List.append_nil (printId id [8, 4, 0])]
  simp only [hexDigits_printId_cons]
  rw [printId, List.map_nil, List.nil_append, hexDigits]
  congr 1
  apply UInt32.toBitVec_inj.mp
  ext i bound
  simp
  interval_cases i <;> simp

/-! ## Reading back what was printed -/

theorem hasFlag (id : UInt32) (bit : Nat) {flag : UInt32}
    (single : flag.toBitVec = BitVec.twoPow 32 bit) : id &&& flag = 0 ∨ id &&& flag = flag := by
  have value : (id &&& flag).toBitVec = id.toBitVec &&& BitVec.twoPow 32 bit := by
    rw [UInt32.toBitVec_and, single]
  rw [BitVec.and_twoPow] at value
  split at value
  · exact .inr (UInt32.toBitVec_inj.1 (value.trans single.symm))
  · exact .inl (UInt32.toBitVec_inj.1 value)

/-- An identifier in parts. -/
theorem id_ext_parts (id : UInt32) :
    id = (id &&& canEffMask) ||| (id &&& canEffFlag) ||| (id &&& canRtrFlag) |||
      (id &&& ~~~(canEffFlag ||| canRtrFlag ||| canEffMask)) := by
  apply UInt32.toBitVec_inj.mp
  ext i bound
  simp [canEffMask, canEffFlag, canRtrFlag]
  interval_cases i <;> simp

theorem id_std_parts (id : UInt32) :
    id = (id &&& canSffMask) ||| (id &&& canRtrFlag) |||
      (id &&& ~~~(canRtrFlag ||| canSffMask)) := by
  apply UInt32.toBitVec_inj.mp
  ext i bound
  simp [canSffMask, canRtrFlag]
  interval_cases i <;> simp

/-- The identifier that is read from a line, from its kind and its digits. -/
def readId (rtr ext : Bool) (id : UInt32) : UInt32 :=
  let id := if ext then (id &&& canEffMask) ||| canEffFlag else id &&& canSffMask
  if rtr then id ||| canRtrFlag else id

/-- Whether an identifier has the flag of a remote frame, or of an extended one. -/
def isRtr (id : UInt32) : Bool := id &&& canRtrFlag ≠ 0
def isExt (id : UInt32) : Bool := id &&& canEffFlag ≠ 0

theorem and_canRtrFlag (id : UInt32) :
    id &&& canRtrFlag = if isRtr id then canRtrFlag else 0 := by
  rcases hasFlag id 30 (show canRtrFlag.toBitVec = BitVec.twoPow 32 30 by decide) with none | set
  · simp [isRtr, none]
  · simp [isRtr, set, show canRtrFlag ≠ 0 by decide]

theorem and_canEffFlag (id : UInt32) :
    id &&& canEffFlag = if isExt id then canEffFlag else 0 := by
  rcases hasFlag id 31 (show canEffFlag.toBitVec = BitVec.twoPow 32 31 by decide) with none | set
  · simp [isExt, none]
  · simp [isExt, set, show canEffFlag ≠ 0 by decide]

/-- The identifier is read back from its kind and its digits. -/
theorem Plain.readId_eq {frame : CanFrame} (plain : Plain frame) :
    readId (isRtr frame.id) (isExt frame.id) (if isExt frame.id then frame.id &&& canEffMask
      else frame.id &&& canSffMask &&& 0xFFF) = frame.id := by
  have whole := plain.id
  have rtr := and_canRtrFlag frame.id
  have eff := and_canEffFlag frame.id
  rw [eff] at whole
  cases far : isExt frame.id with
  | false =>
      rw [far, if_neg (by simp)] at whole
      have parts := id_std_parts frame.id
      rw [whole, rtr, UInt32.or_zero] at parts
      have narrow : canSffMask &&& (0xFFF &&& canSffMask) = canSffMask := by decide
      simp only [readId, Bool.false_eq_true, if_false, UInt32.and_assoc, narrow]
      cases remote : isRtr frame.id with
      | false => simpa [remote] using parts.symm
      | true => simpa [remote] using parts.symm
  | true =>
      rw [far, if_pos (by decide)] at whole
      have parts := id_ext_parts frame.id
      rw [whole, rtr, eff, far, UInt32.or_zero] at parts
      simp only [readId, if_true, UInt32.and_assoc, UInt32.and_self]
      cases remote : isRtr frame.id with
      | false => simpa [remote] using parts.symm
      | true => simpa [remote] using parts.symm

/-- The data that is read back are those of the frame. -/
theorem data_eq {data : Block UInt8 8} {count : Nat} (few : count ≤ 8)
    (zeros : ∀ i, count ≤ i → data.cells.getD i 0 = 0) :
    (Block.fill 8 0).store 0 (data.load 0 count) = data := by
  obtain ⟨cells, size⟩ := data
  have length : (cells.take count).length = count := by
    rw [List.length_take]
    omega
  have clear : cells.drop count = List.replicate (8 - count) 0 := by
    refine List.ext_getElem (by simp [size]) fun i inside _ => ?_
    rw [List.length_drop] at inside
    have zero : cells.getD (count + i) 0 = 0 := zeros (count + i) (by omega)
    rw [List.getD_eq_getElem?_getD, List.getElem?_eq_getElem (by omega), Option.getD_some] at zero
    rw [List.getElem_drop, List.getElem_replicate, zero]
  have same : overwrite (List.replicate 8 0) 0 (cells.take count) = cells := by
    rw [overwrite_eq (by rw [length, List.length_replicate]; omega), length, List.take_zero,
      List.nil_append, Nat.zero_add, List.drop_replicate, ← clear, List.take_append_drop]
  rw [Block.mk.injEq]
  exact same

theorem length_flatMap_hexPair (data : List UInt8) :
    (data.flatMap hexPair).length = 2 * data.length := by
  induction data with
  | nil => rfl
  | cons byte data ih =>
      rw [List.flatMap_cons, List.length_append, ih, List.length_cons]
      exact (Nat.mul_succ 2 _ ▸ Nat.add_comm ..)

theorem zero_not_mem_flatMap_hexPair (data : List UInt8) : 0 ∉ data.flatMap hexPair := by
  intro member
  obtain ⟨byte, -, member⟩ := List.mem_flatMap.1 member
  rw [hexPair, List.mem_cons, List.mem_singleton] at member
  rcases member with high | low
  · exact hexval_ne_zero (toNat_high byte) high.symm
  · exact hexval_ne_zero (toNat_low byte) low.symm

theorem zero_not_mem_printId (id : UInt32) (shifts : List UInt32) : 0 ∉ printId id shifts := by
  intro member
  obtain ⟨shift, -, digit⟩ := List.mem_map.1 member
  exact hexval_ne_zero (toNat_nibble_lt id shift) digit

/-- A line without its carriage return, from its kind, its digits and its data. -/
theorem parseFrame_eq {letter : UInt8} {ids : List UInt8} {id : UInt32} {dlc : Nat}
    {data : List UInt8} (rtr ext : Bool) (named : letter ≠ 0) (digits : 0 ∉ ids)
    (idLen : ids.length = if ext then 8 else 3)
    (value : ∀ rest, hexStringToU32Be (ids ++ rest) (if ext then 8 else 3) = some id)
    (short : dlc ≤ 8) (carried : data.length = if rtr then 0 else dlc) :
    parseFrame (letter :: (ids ++ hexval dlc :: data.flatMap hexPair)) rtr ext =
      some { id := readId rtr ext id, dlc, data := (Block.fill 8 0).store 0 data } := by
  have digit : dlc < 16 := by omega
  have plain := zero_not_mem_flatMap_hexPair data
  have text : 0 ∉ letter :: (ids ++ hexval dlc :: data.flatMap hexPair) := by
    simp only [List.mem_cons, List.mem_append, not_or]
    exact ⟨named.symm, digits, (hexval_ne_zero digit).symm, plain⟩
  have size := length_flatMap_hexPair data
  unfold parseFrame
  rw [cString_of_no_nul text]
  generalize (if ext = true then 8 else 3) = n at idLen value
  subst idLen
  have length : ¬ (letter :: (ids ++ hexval dlc :: data.flatMap hexPair)).length <
      ids.length + 2 := by
    simp only [List.length_cons, List.length_append]
    omega
  have code : (letter :: (ids ++ hexval dlc :: data.flatMap hexPair)).getD (1 + ids.length) 0 =
      hexval dlc := by
    rw [Nat.add_comm, List.getD_cons_succ, List.getD_eq_getElem?_getD,
      List.getElem?_append_right (Nat.le_refl _), Nat.sub_self]
    rfl
  have payload : (letter :: (ids ++ hexval dlc :: data.flatMap hexPair)).drop (2 + ids.length) =
      data.flatMap hexPair := by
    rw [show 2 + ids.length = ids.length + 1 + 1 by omega, List.drop_succ_cons,
      ← List.drop_drop, List.drop_left, List.drop_one, List.tail_cons]
  simp only [length, if_false, List.drop_succ_cons, List.drop_zero, value, code,
    hexCharToInt_hexval digit, payload]
  rw [if_neg (by omega)]
  cases rtr with
  | true =>
      have none : data = [] := List.length_eq_zero_iff.1 carried
      subst none
      rfl
  | false =>
      have carried : data.length = dlc := carried
      have read := hexStringToU8Array_hexPair (by omega : data.length ≤ 8) []
      rw [List.append_nil, Nat.mul_comm] at read
      subst carried
      rw [cString_of_no_nul plain, size]
      simp only [Bool.false_eq_true, if_false, Int.toNat_natCast, Nat.mul_comm 2, Nat.lt_irrefl,
        read, ne_eq, not_true_eq_false]
      rfl

/-! ## The round trip -/

/-- The letter of a line tells the kind of its frame. -/
def kindLetter (rtr ext : Bool) : UInt8 :=
  if ext then if rtr then ascii 'R' else ascii 'T' else if rtr then ascii 'r' else ascii 't'

theorem letterKind_kindLetter (rtr ext : Bool) :
    letterKind (kindLetter rtr ext) = some (rtr, ext) := by
  cases rtr <;> cases ext <;> decide

/-- The digits of the identifier of a frame. -/
def frameId (id : UInt32) : List UInt8 :=
  if isExt id then printId (id &&& canEffMask) [28, 24, 20, 16, 12, 8, 4, 0]
  else printId (id &&& canSffMask) [8, 4, 0]

/-- The data that a line carries. -/
def frameData (frame : CanFrame) : List UInt8 :=
  if isRtr frame.id then [] else frame.data.load 0 (min frame.dlc 8)

theorem printFrame_eq (frame : CanFrame) (short : frame.dlc ≤ 8) :
    printFrame frame = kindLetter (isRtr frame.id) (isExt frame.id) ::
      (frameId frame.id ++ hexval frame.dlc :: (frameData frame).flatMap hexPair) ++
        [ascii '\r'] := by
  have code : frame.dlc % 16 = frame.dlc := by omega
  unfold printFrame kindLetter frameId frameData
  rw [code]
  cases far : isExt frame.id <;> cases remote : isRtr frame.id <;>
    simp_all only [isExt, isRtr, ne_eq, decide_eq_true_eq, decide_eq_false_iff_not, not_not,
      not_true_eq_false, not_false_eq_true, if_true, if_false, Bool.false_eq_true,
      List.cons_append, List.append_assoc, List.nil_append, List.append_nil, List.flatMap_nil]

/-- The digits of the identifier of a frame are read. -/
theorem readId_frameId (id : UInt32) (rest : List UInt8) :
    hexStringToU32Be (frameId id ++ rest) (if isExt id then 8 else 3) =
      some (if isExt id then id &&& canEffMask else id &&& canSffMask &&& 0xFFF) := by
  unfold frameId
  cases isExt id with
  | true => exact readId_ext _ rest
  | false => exact readId_std _ rest

theorem length_frameId (id : UInt32) : (frameId id).length = if isExt id then 8 else 3 := by
  unfold frameId
  cases isExt id <;> rfl

theorem length_frameData {frame : CanFrame} (short : frame.dlc ≤ 8) :
    (frameData frame).length = if isRtr frame.id then 0 else frame.dlc := by
  unfold frameData
  cases isRtr frame.id with
  | true => rfl
  | false =>
      rw [if_neg (by decide), if_neg (by decide), Nat.min_eq_left short]
      exact Block.length_load (by omega)

theorem Plain.store_frameData {frame : CanFrame} (plain : Plain frame) :
    (Block.fill 8 0).store 0 (frameData frame) = frame.data := by
  have zeros := plain.data
  have short := plain.dlc
  unfold frameData
  cases remote : isRtr frame.id with
  | true =>
      rw [if_pos (by simpa [isRtr] using remote)] at zeros
      have none : (Block.fill 8 0).store 0 (frame.data.load 0 0) = frame.data :=
        data_eq (Nat.zero_le _) zeros
      exact none
  | false =>
      rw [if_neg (by simpa [isRtr] using remote)] at zeros
      rw [if_neg (by decide), Nat.min_eq_left short]
      exact data_eq short zeros

/-- What is printed for a frame is read back as the frame, by the kind that its first letter
selects, and fits the line. -/
theorem parse_print (frame : CanFrame) (plain : Plain frame) :
    ∃ rtr ext, letterKind ((printFrame frame).headD 0) = some (rtr, ext) ∧
      parseFrame (printFrame frame).dropLast rtr ext = some frame ∧
      (printFrame frame).length ≤ lineMax := by
  have short := plain.dlc
  refine ⟨isRtr frame.id, isExt frame.id, ?_, ?_, ?_⟩
  · rw [printFrame_eq frame short]
    exact letterKind_kindLetter ..
  · have named : kindLetter (isRtr frame.id) (isExt frame.id) ≠ 0 := by
      cases isRtr frame.id <;> cases isExt frame.id <;> decide
    have digits : 0 ∉ frameId frame.id := by
      unfold frameId
      split
      · exact zero_not_mem_printId _ _
      · exact zero_not_mem_printId _ _
    rw [printFrame_eq frame short, List.dropLast_concat,
      parseFrame_eq _ _ named digits (length_frameId _) (readId_frameId _) short
        (length_frameData short), plain.readId_eq, plain.store_frameData]
  · have ids := length_frameId frame.id
    have data := length_frameData short
    have pairs := length_flatMap_hexPair (frameData frame)
    rw [printFrame_eq frame short, lineMax]
    simp only [List.length_append, List.length_cons, List.length_nil]
    split at ids <;> split at data <;> omega

theorem parse_print_request :
    let frame : CanFrame :=
      { id := 0x98DB33F1, dlc := 3, data := (Block.fill 8 0).store 0 [2, 1, 0] }
    ∃ rtr ext, letterKind ((printFrame frame).headD 0) = some (rtr, ext) ∧
      parseFrame (printFrame frame).dropLast rtr ext = some frame ∧
      (printFrame frame).length ≤ lineMax := by
  intro frame
  refine parse_print frame ⟨by decide, by decide, fun i later => ?_⟩
  match i, later with
  | 3, _ | 4, _ | 5, _ | 6, _ | 7, _ => rfl
  | i + 8, _ => rfl
  | 0, later | 1, later | 2, later => exact absurd later (by decide)

end OpenDiag.Slcan
