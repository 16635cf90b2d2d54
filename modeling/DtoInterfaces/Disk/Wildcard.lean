import DtoInterfaces.Text.Basic

namespace DtoInterfaces.Wildcard

inductive Piece where
  | run
  | any
  | char (c : CodePoint)
  /-- One character of the inclusive ranges, or with `negated` one outside of them. -/
  | set (negated : Bool) (ranges : List (CodePoint × CodePoint))
  deriving DecidableEq, Repr

/-- Takes `c` off the front of a text if it is there. -/
def leading (c : Char) : RawText → RawText × RawText
  | a :: rest => if a = .char c then ([a], rest) else ([], a :: rest)
  | [] => ([], [])

/-- What stands between square brackets, and the rest, behind an opening bracket. A closing one
right at the start, or right behind an exclamation mark, is a member. -/
def setBody? (t : RawText) : Option (RawText × RawText) :=
  let (mark, t) := leading '!' t
  let (bracket, t) := leading ']' t
  match t.dropWhile (· != .char ']') with
  | _ :: rest => some (mark ++ bracket ++ t.takeWhile (· != .char ']'), rest)
  | [] => none

/-- The members of a set in order: ranges with both their ends, and single characters. -/
def members : RawText → List (CodePoint × Option CodePoint)
  | a :: .char '-' :: b :: rest => (a, some b) :: members rest
  | a :: rest => (a, none) :: members rest
  | [] => []

def isEmptyRange : CodePoint × Option CodePoint → Bool
  | (a, some b) => b < a
  | (_, none) => false

/-- A set by its body. Empty ranges are left out, and an exclamation mark that is then in front
negates the set, even out of a range that it began. -/
def setOf (body : RawText) : Piece :=
  let (mark, rest) := leading '!' body
  let found := (mark.map fun c => (c, none)) ++ members rest
  let single (m : CodePoint × Option CodePoint) : CodePoint × CodePoint := (m.1, m.2.getD m.1)
  match found.filter fun m => !isEmptyRange m with
  | (.char '!', none) :: rest => .set true (rest.map single)
  | (.char '!', some b) :: rest => .set true ((.char '-', .char '-') :: (b, b) :: rest.map single)
  | rest => .set false (rest.map single)

theorem length_leading_le (c : Char) (t : RawText) : (leading c t).2.length ≤ t.length := by
  unfold leading
  split
  · split <;> simp
  · simp

theorem length_of_setBody? {t body rest : RawText} (h : setBody? t = some (body, rest)) :
    rest.length ≤ t.length := by
  unfold setBody? at h
  dsimp only at h
  split at h
  · next hd =>
    cases h
    have h1 := (List.dropWhile_suffix (l := (leading ']' (leading '!' t).2).2)
      (· != .char ']')).length_le
    rw [hd] at h1
    have h2 := length_leading_le ']' (leading '!' t).2
    have h3 := length_leading_le '!' t
    simp only [List.length_cons] at h1
    omega
  · cases h

def ofText (t : RawText) : List Piece :=
  match t with
  | [] => []
  | .char '*' :: rest => .run :: ofText rest
  | .char '?' :: rest => .any :: ofText rest
  | .char '[' :: rest =>
    match _h : setBody? rest with
    | some (body, after) => setOf body :: ofText after
    | none => .char (.char '[') :: ofText rest
  | c :: rest => .char c :: ofText rest
termination_by t.length
decreasing_by
  all_goals simp_wf
  have := length_of_setBody? _h
  omega

def Piece.holds : Piece → CodePoint → Bool
  | .run, _ => false
  | .any, _ => true
  | .char expected, c => c == expected
  | .set negated ranges, c => (ranges.any fun r => r.1 ≤ c && c ≤ r.2) != negated

/-- For every place whether the verdict there or a later one is positive. -/
def anyLater (found : List Bool) : List Bool :=
  found.foldr (fun verdict later => (verdict || later.headD false) :: later) []

/-- Whether a name is what the pieces describe, for the name and each of its tails down to the
empty one. The pieces are taken once each, so no choice of a run is ever tried again. -/
def verdicts : List Piece → RawText → List Bool
  | [], name => name.map (fun _ => false) ++ [true]
  | .run :: pieces, name => anyLater (verdicts pieces name)
  | piece :: pieces, name =>
    List.zipWith (fun c behind => piece.holds c && behind) name (verdicts pieces name).tail ++
      [false]

/-- Whether the whole name is what the pieces describe. -/
def accepts (pieces : List Piece) (name : RawText) : Bool := (verdicts pieces name).headD false

theorem verdicts_nil (pieces : List Piece) : verdicts pieces [] = [accepts pieces []] := by
  unfold accepts
  match pieces with
  | [] => rfl
  | .run :: rest =>
    rw [verdicts, verdicts_nil rest]
    simp [anyLater]
  | .any :: _ | .char _ :: _ | .set _ _ :: _ => simp [verdicts]

theorem verdicts_cons (pieces : List Piece) (c : CodePoint) (name : RawText) :
    verdicts pieces (c :: name) = accepts pieces (c :: name) :: verdicts pieces name := by
  unfold accepts
  match pieces with
  | [] => rfl
  | .run :: rest =>
    rw [verdicts, verdicts_cons rest, verdicts]
    simp [anyLater]
  | .any :: rest | .char _ :: rest | .set _ _ :: rest =>
    rw [verdicts, verdicts_cons rest, verdicts]
    · cases name with
      | nil => simp [verdicts_nil rest]
      | cons b name => simp [verdicts_cons rest b name]
    all_goals simp

theorem accepts_nil (name : RawText) : accepts [] name = name.isEmpty := by
  cases name <;> rfl

theorem accepts_run_nil (pieces : List Piece) :
    accepts (.run :: pieces) [] = accepts pieces [] := by
  rw [accepts, verdicts, verdicts_nil]
  simp [anyLater]

/-- A run takes nothing, or one more character. -/
theorem accepts_run_cons (pieces : List Piece) (c : CodePoint) (name : RawText) :
    accepts (.run :: pieces) (c :: name) =
      (accepts pieces (c :: name) || accepts (.run :: pieces) name) := by
  rw [accepts, verdicts, verdicts_cons]
  simp [anyLater, accepts, verdicts]

theorem accepts_piece_nil {piece : Piece} (h : piece ≠ .run) (pieces : List Piece) :
    accepts (piece :: pieces) [] = false := by
  rw [accepts, verdicts] <;> simp_all

/-- Any other piece takes one character. -/
theorem accepts_piece_cons {piece : Piece} (h : piece ≠ .run) (pieces : List Piece) (c : CodePoint)
    (name : RawText) :
    accepts (piece :: pieces) (c :: name) = (piece.holds c && accepts pieces name) := by
  rw [accepts, verdicts, verdicts_cons, List.tail_cons]
  · cases name with
    | nil => simp [verdicts_nil]
    | cons b name => simp [verdicts_cons]
  · simpa using h

end DtoInterfaces.Wildcard
