/-! What a terminal shows of a text. Escape sequences, control sequences and the strings meant for
a device are swallowed, and so are the controls that do not space. -/

namespace FrameViewer.Text

inductive TerminalState where
  | text
  | escape
  /-- An escape sequence, up to its final character. -/
  | sequence
  /-- A control sequence, up to its final character. -/
  | control
  /-- A device control string of which nothing came yet. -/
  | device
  /-- The parameters of a device control string. -/
  | parameters
  /-- What stands between the parameters and the final character. -/
  | intermediates
  /-- A string, up to its terminator. -/
  | string
  /-- A command to the system, up to a bell. -/
  | command
  deriving DecidableEq, Repr

/-- The controls that space: tab, line feed, form feed and carriage return. -/
def isSpacing (c : Char) : Bool :=
  c = '\t' || c = '\n' || c = '\x0c' || c = '\r'

def isIntermediate (c : Char) : Bool :=
  ' ' ≤ c && c ≤ '/'

def isParameter (c : Char) : Bool :=
  '0' ≤ c && c ≤ '?'

def isFinal (c : Char) : Bool :=
  '@' ≤ c && c ≤ '~'

def isShown (c : Char) : Bool :=
  isSpacing c || (' ' ≤ c && c ≠ '\x7f')

/-- Whether the octet of the string terminator is among those of the character. -/
def hasTerminator (c : Char) : Bool :=
  (String.utf8EncodeChar c).contains 0x9c

namespace TerminalState

/-- What begins with a character right after an escape. -/
def ofIntroducer (c : Char) : TerminalState :=
  if c = '[' then control
  else if c = ']' then command
  else if c = 'P' then device
  else if c = 'X' ∨ c = '^' ∨ c = '_' then string
  else text

/-- The state after a character that is not shown. -/
def swallow (state : TerminalState) (c : Char) : TerminalState :=
  match state with
  | text => text
  | escape =>
    if isIntermediate c then sequence
    else if isParameter c || isFinal c then ofIntroducer c
    else escape
  | sequence => if isParameter c || isFinal c then text else sequence
  | control => if isFinal c then text else control
  | device =>
    if isIntermediate c then intermediates
    else if isParameter c then parameters
    else if isFinal c then string
    else device
  | parameters =>
    if isIntermediate c then intermediates
    else if isFinal c || ('<' ≤ c && c ≤ '?') then string
    else parameters
  | intermediates => if isParameter c || isFinal c then string else intermediates
  | string => if hasTerminator c then text else string
  | command => if c = '\x07' then text else command

/-- Whether a character is shown in a state. A spacing control is shown even amid a sequence, and
ends it. -/
def shows (state : TerminalState) (c : Char) : Bool :=
  match state with
  | text => isShown c
  | escape | sequence | control => isSpacing c
  | _ => false

/-- The state after a character. An escape begins anew wherever it comes, and a cancelled sequence
is over. -/
def after (state : TerminalState) (c : Char) : TerminalState :=
  if c = '\x1b' then escape
  else if c = '\x18' ∨ c = '\x1a' then text
  else if state.shows c then text
  else state.swallow c

/-- The characters that are shown from a state on. -/
def shown (state : TerminalState) : List Char → List Char
  | [] => []
  | c :: rest =>
    if state.shows c then c :: shown (state.after c) rest else shown (state.after c) rest

end TerminalState

/-- What a terminal shows of a text. -/
def visible (text : String) : String :=
  String.ofList (TerminalState.shown .text text.toList)

end FrameViewer.Text
