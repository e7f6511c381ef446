/-
  Control sequences: text for terminals, and what is left of it where there is none.

  * `emphasised` sets a text between two sequences, of which the first lets a terminal emphasise
    what follows and the second ends that.
  * `ControlState` is how far into a sequence a text has come, and `ControlState.step` goes on by a
    character. A sequence begins with an escape character; what follows decides whether it is a
    command, a message to a device, or a title.
  * `withoutControls` leaves out all sequences, and all control characters but blanks. It looks for
    the next character to show, and then shows characters up to the next that it cannot.
-/

namespace ScalarStubs.Text

/-- The text, emphasised on a terminal. -/
def emphasised (s : String) : String :=
  "\x1b[1m" ++ s ++ "\x1b[0m"

/-- How far into a control sequence a text has come. -/
inductive ControlState where
  /-- In no sequence. -/
  | outside
  /-- Behind an escape character. -/
  | escape
  /-- Behind an escape character and marks. -/
  | marked
  /-- In a command and its numbers. -/
  | command
  /-- At the beginning of a message to a device. -/
  | device
  /-- In the numbers in front of a message. -/
  | deviceNumbers
  /-- In the marks in front of a message. -/
  | deviceMarks
  /-- In what a message or another string says. -/
  | payload
  /-- In a title. -/
  | title
deriving DecidableEq, Repr

/-- Whether a character lies in a range. -/
def isBetween (low high c : Char) : Bool :=
  low ≤ c && c ≤ high

/-- Whether a byte of a character is the code that ends a string. -/
def holdsTerminator (c : Char) : Bool :=
  (String.utf8EncodeChar c).contains 0x9C

namespace ControlState

/-- Where a character leads, if it neither cancels a sequence nor begins one. -/
def next (s : ControlState) (c : Char) : ControlState :=
  match s with
  | outside => outside
  | escape =>
    if isBetween ' ' '/' c then marked
    else if c = '[' then command
    else if c = ']' then title
    else if c = 'P' then device
    else if c = 'X' || c = '^' || c = '_' then payload
    else if isBetween '0' '~' c then outside
    else escape
  | marked => if isBetween '0' '~' c then outside else marked
  | command => if isBetween '@' '~' c then outside else command
  | device =>
    if isBetween ' ' '/' c then deviceMarks
    else if isBetween '0' '?' c then deviceNumbers
    else if isBetween '@' '~' c then payload
    else device
  | deviceNumbers =>
    if isBetween ' ' '/' c then deviceMarks
    else if isBetween '<' '~' c then payload
    else deviceNumbers
  | deviceMarks => if isBetween '0' '~' c then payload else deviceMarks
  | payload => if holdsTerminator c then outside else payload
  | title => if c = '\x07' then outside else title

/-- Where a character leads. Two of them cancel every sequence, and an escape character always
    begins one. -/
def step (s : ControlState) (c : Char) : ControlState :=
  if c = '\x18' || c = '\x1a' then outside
  else if c = '\x1b' then escape
  else s.next c

/-- Whether line breaks and tabs are still shown. -/
def showsBlanks : ControlState → Bool
  | outside | escape | marked | command => true
  | _ => false

/-- Whether a character is shown in a state. -/
def isShown (s : ControlState) (c : Char) : Bool :=
  if c = '\t' || c = '\n' || c = '\x0c' || c = '\r' then s.showsBlanks
  else s = outside && ' ' ≤ c && c != '\x7f'

end ControlState

/-- What is shown of characters, in a state and, if `showing` is set, behind one that was shown. A
    blank in a sequence is shown with all that follows, but does not end the sequence. -/
def shownFrom (showing : Bool) (s : ControlState) : List Char → List Char
  | [] => []
  | c :: cs =>
    if showing then
      if ControlState.outside.isShown c then
        c :: shownFrom true (if c ≤ '~' then s else .outside) cs
      else shownFrom false (s.step c) cs
    else if s.isShown c then c :: shownFrom true (s.step c) cs
    else shownFrom false (s.step c) cs

/-- The text without control sequences and control characters. -/
def withoutControls (s : String) : String :=
  String.ofList (shownFrom false .outside s.toList)

end ScalarStubs.Text
