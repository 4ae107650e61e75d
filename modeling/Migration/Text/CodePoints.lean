namespace Migration.Text

/-! The texts between the characters that break them: one more text than there are breaks. -/

def splitWhere (isBreak : Char → Bool) : List Char → List (List Char)
  | [] => [[]]
  | c :: rest =>
      match splitWhere isBreak rest with
      | [] => [[c]]
      | field :: fields => if isBreak c then [] :: field :: fields else (c :: field) :: fields

example : splitWhere (· == '_') "a_bc_".toList = ["a".toList, "bc".toList, []] := by decide

/-! Sets of code points beyond ASCII, and maps from one to another, in the written form of the
tables that use them. `C0-D6` is a run of code points, `100-12E/2` every second one of a run, and
`C0-D6>E0` sends a run to the run of the same shape that starts at `E0`. -/

structure Run where
  first : Nat
  last : Nat
  step : Nat

def Run.contains (run : Run) (code : Nat) : Bool :=
  run.first ≤ code && code ≤ run.last && (code - run.first) % run.step == 0

structure Shift where
  source : Run
  target : Nat

def Shift.image? (shift : Shift) (code : Nat) : Option Nat :=
  if shift.source.contains code then some (shift.target + (code - shift.source.first)) else none

private def hexNumber (digits : List Char) : Nat :=
  digits.foldl (fun number digit =>
    16 * number + (if digit.isDigit then digit.toNat - 48 else digit.toNat - 55)) 0

private def runOfText (text : List Char) : Run :=
  match splitWhere (· == '/') text with
  | [ends] => withStep ends 1
  | ends :: step :: _ => withStep ends (hexNumber step)
  | [] => ⟨0, 0, 1⟩
where
  withStep (ends : List Char) (step : Nat) : Run :=
    match (splitWhere (· == '-') ends).map hexNumber with
    | first :: last :: _ => ⟨first, last, step⟩
    | [single] => ⟨single, single, 1⟩
    | [] => ⟨0, 0, 1⟩

private def itemsOfText (text : String) : List (List Char) :=
  (splitWhere Char.isWhitespace text.toList).filter (!·.isEmpty)

/-- Of a text that is given by its characters the items are read off without going through its
bytes. -/
theorem itemsOfText_ofList (characters : List Char) :
    itemsOfText (.ofList characters) =
      (splitWhere Char.isWhitespace characters).filter (!·.isEmpty) := by
  rw [itemsOfText, String.toList_ofList]

structure CodePoints where
  runs : List Run

def CodePoints.ofText (text : String) : CodePoints :=
  ⟨(itemsOfText text).map runOfText⟩

def CodePoints.contains (set : CodePoints) (c : Char) : Bool :=
  set.runs.any (·.contains c.toNat)

structure CodePointMap where
  shifts : List Shift

def CodePointMap.ofText (text : String) : CodePointMap :=
  ⟨(itemsOfText text).map fun item =>
    match splitWhere (· == '>') item with
    | source :: target :: _ => ⟨runOfText source, hexNumber target⟩
    | _ => ⟨⟨1, 0, 1⟩, 0⟩⟩

/-- A character outside the sources is its own image. -/
def CodePointMap.apply (map : CodePointMap) (c : Char) : Char :=
  ((map.shifts.findSome? (·.image? c.toNat)).map Char.ofNat).getD c

/-! Single code points whose image is a text, written `DF>53+53`. -/

structure Expansions where
  images : List (Nat × List Char)

def Expansions.ofText (text : String) : Expansions :=
  ⟨(itemsOfText text).map fun item =>
    match splitWhere (· == '>') item with
    | source :: image :: _ =>
        (hexNumber source, (splitWhere (· == '+') image).map (Char.ofNat <| hexNumber ·))
    | _ => (0, [])⟩

def Expansions.image? (expansions : Expansions) (c : Char) : Option (List Char) :=
  expansions.images.lookup c.toNat

example : (CodePoints.ofText "AA C0-D6 100-12E/2").runs.map (·.last) = [0xAA, 0xD6, 0x12E] := by
  decide

end Migration.Text
