import RootObject.Text.Utf8

/-!
Texts for a terminal. A control sequence is an escape character with all that it introduces; a style is
set and taken back by one. Where no styles are shown a text loses its control sequences and its control
characters, tabs and line ends excepted. A sequence that does not end takes what follows with it, up to
the next escape character (`shownFrom_style`).
-/

namespace RootObject.Terminal

/-- A text in a terminal style. -/
def styled (style text : String) : String :=
  "\x1b[" ++ style ++ "m" ++ text ++ "\x1b[0m"

/-- What an escape character has introduced. -/
inductive Sequence where
  /-- Nothing yet. -/
  | escape
  /-- The blanks and marks that may follow an escape character. -/
  | marks
  /-- The parameters of a sequence, which a letter ends. -/
  | parameters
  /-- A command to the terminal's system, which a bell ends. -/
  | command
  /-- A string for a device, of which nothing has been read. -/
  | device
  /-- The parameters of a string for a device. -/
  | deviceParameters
  /-- The blanks and marks behind the parameters of a string for a device. -/
  | deviceMarks
  /-- A string for the terminal, or behind the parameters one for a device. The byte 9C ends it, be it
  a part of a character. -/
  | string
  deriving DecidableEq, Repr

/-- Where in a text with control sequences a character stands. -/
inductive Place where
  | text
  | within (sequence : Sequence)
  /-- In text again because a tab or a line end stood within a sequence. A control character goes back
  into the sequence, a character outside ASCII gives it up. -/
  | interrupted (sequence : Sequence)
  deriving DecidableEq, Repr

/-- Control characters that a text keeps. -/
def isLayout (c : Char) : Bool :=
  c = '\t' || c = '\n' || c = '\x0c' || c = '\r'

/-- Whether a text keeps a character. -/
def isShown (c : Char) : Bool :=
  ' ' ≤ c && c ≠ '\x7f' || isLayout c

/-- Whether layout within a sequence is kept. -/
def Sequence.admitsLayout : Sequence → Bool
  | .escape | .marks | .parameters => true
  | .command | .device | .deviceParameters | .deviceMarks | .string => false

/-- The place behind a character of a sequence, blanks and what comes after them in ASCII. -/
def Sequence.behind (sequence : Sequence) (c : Char) : Place :=
  match sequence with
  | .escape =>
      if c < '0' then .within .marks
      else if c = '[' then .within .parameters
      else if c = ']' then .within .command
      else if c = 'P' then .within .device
      else if c = 'X' ∨ c = '^' ∨ c = '_' then .within .string
      else .text
  | .marks => if c < '0' then .within .marks else .text
  | .parameters => if c < '@' then .within .parameters else .text
  | .command => .within .command
  | .device =>
      if c < '0' then .within .deviceMarks
      else if c < '@' then .within .deviceParameters
      else .within .string
  | .deviceParameters =>
      if c < '0' then .within .deviceMarks
      else if c < '<' then .within .deviceParameters
      else .within .string
  | .deviceMarks => if c < '0' then .within .deviceMarks else .within .string
  | .string => .within .string

/-- The place behind a character, and whether the character is kept. -/
def Place.step (place : Place) (c : Char) : Place × Bool :=
  if c = '\x1b' then (.within .escape, false)
  else if c = '\x18' ∨ c = '\x1a' then (.text, false)
  else match place with
    | .text => (.text, isShown c)
    | .interrupted sequence =>
        if '\x80' ≤ c then (.text, true)
        else if isShown c then (.interrupted sequence, true)
        else (.within sequence, false)
    | .within sequence =>
        if isLayout c ∧ sequence.admitsLayout then (.interrupted sequence, true)
        else if c = '\x07' ∧ sequence = .command then (.text, false)
        else if sequence = .string ∧ (Utf8.encodeChar c).contains 0x9C then (.text, false)
        else if ' ' ≤ c ∧ c < '\x7f' then (sequence.behind c, false)
        else (.within sequence, false)

/-- What is kept of a text that starts at a place. -/
def shownFrom (place : Place) : List Char → List Char
  | [] => []
  | c :: rest =>
      if (place.step c).2 then c :: shownFrom (place.step c).1 rest
      else shownFrom (place.step c).1 rest

/-- A text of characters that it keeps has nothing to lose. -/
theorem shownFrom_eq_self (cs : List Char) (shown : ∀ c ∈ cs, isShown c) :
    shownFrom .text cs = cs := by
  induction cs with
  | nil => rfl
  | cons c rest ih =>
      have keeps := shown c (by simp)
      have step : Place.step .text c = (.text, true) := by
        have control : ∀ d : Char, isShown d = false → c ≠ d := by
          intro d hidden eq
          rw [eq, hidden] at keeps
          exact absurd keeps (by decide)
        simp [Place.step, keeps, control '\x1b' (by decide), control '\x18' (by decide),
          control '\x1a' (by decide)]
      simp [shownFrom, step, ih fun d mem => shown d (by simp [mem])]

/-- Parameters are left out together with the letter that ends them. -/
theorem shownFrom_parameters (parameters rest : List Char)
    (among : ∀ c ∈ parameters, ' ' ≤ c ∧ c < '@') :
    shownFrom (.within .parameters) (parameters ++ 'm' :: rest) = shownFrom .text rest := by
  induction parameters with
  | nil => rfl
  | cons c parameters ih =>
      obtain ⟨ge, lt⟩ := among c (by simp)
      have control : ∀ d : Char, d < ' ' → c ≠ d := by
        intro d below eq
        exact absurd (eq ▸ ge) (Char.not_le.mpr below)
      have step : Place.step (.within .parameters) c = (.within .parameters, false) := by
        have ascii : c < '\x7f' := Char.lt_trans lt (by decide)
        simp [Place.step, Sequence.behind, isLayout, ge, lt, ascii, control '\x1b' (by decide),
          control '\x18' (by decide), control '\x1a' (by decide), control '\t' (by decide),
          control '\n' (by decide), control '\x0c' (by decide), control '\r' (by decide)]
      simp [shownFrom, step, ih fun d mem => among d (by simp [mem])]

/-- A style is left out, and behind it there is text, whatever the style stood in. -/
theorem shownFrom_style (place : Place) (style rest : List Char)
    (among : ∀ c ∈ style, ' ' ≤ c ∧ c < '@') :
    shownFrom place ('\x1b' :: '[' :: style ++ 'm' :: rest) = shownFrom .text rest := by
  have escape : place.step '\x1b' = (.within .escape, false) := by simp [Place.step]
  have bracket : Place.step (.within .escape) '[' = (.within .parameters, false) := by decide
  have tail := shownFrom_parameters style rest among
  simp [shownFrom, escape, bracket, tail]

end RootObject.Terminal

namespace RootObject

/-- The text without control sequences and control characters. -/
def plainText (text : String) : String :=
  String.ofList (Terminal.shownFrom .text text.toList)

end RootObject
