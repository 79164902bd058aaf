/-!
# Text without control sequences

A terminal takes some characters not as text but as commands: control characters, and sequences
that begin with an escape character. `plain` leaves them out, so that a text of unknown content can
be shown without any effect but its being shown.

## Main definitions

- `Mode`: in which kind of sequence a character stands;
- `Mode.after`: the mode after a character that is no control character;
- `Reader`: what is known after a part of a text;
- `Reader.step`: the reader after one more character, and whether that character is text;
- `plain`: the characters of a text that are text.

Among the control characters, the tab, the line feed, the form feed and the carriage return are
text. Outside of a string they suspend a sequence: what follows is text up to the next control
character that is none of these four, and there the sequence goes on.
-/

namespace VulkanExec.Text.Terminal

/-- In which kind of sequence a character stands. -/
inductive Mode where
  /-- In none. -/
  | text
  /-- Right after an escape character. -/
  | escape
  /-- In an escape sequence that has begun with a character below the digits. -/
  | intermediate
  /-- In a control sequence, which ends with its first letter. -/
  | control
  /-- In a command to the operating system, which a bell ends. -/
  | command
  /-- At the head of a string for the device, before its first parameter. -/
  | deviceHead
  /-- Among the parameters of a string for the device. -/
  | deviceParameters
  /-- Past the parameters of a string for the device, before the letter that ends its head. -/
  | deviceIntermediate
  /-- In a string that only another sequence or the string terminator ends. -/
  | string
  deriving DecidableEq, Repr

/-- The control characters that count as text. -/
def isBlank (c : Char) : Bool := c == '\t' || c == '\n' || c == '\x0c' || c == '\r'

/-- The mode after a visible ASCII character. -/
def Mode.afterVisible (c : Char) : Mode → Mode
  | text => text
  | escape =>
    if c = '[' then control
    else if c = ']' then command
    else if c = 'P' then deviceHead
    else if c = 'X' || c = '^' || c = '_' then string
    else if c < '0' then intermediate
    else text
  | intermediate => if c < '0' then intermediate else text
  | control => if c < '@' then control else text
  | command => command
  | deviceHead =>
    if c < '0' then deviceIntermediate else if c < '@' then deviceParameters else string
  | deviceParameters =>
    if c < '0' then deviceIntermediate else if c < '<' then deviceParameters else string
  | deviceIntermediate => if c < '0' then deviceIntermediate else string
  | string => string

/-- Whether the byte of the eight-bit string terminator is among those that encode a character. -/
def endsString (c : Char) : Bool := (String.utf8EncodeChar c).contains 0x9C

/-- The mode after a character beyond ASCII. Such a character is no part of any sequence. -/
def Mode.afterWide (c : Char) : Mode → Mode
  | string => if endsString c then text else string
  | mode => mode

/-- The mode after a character that is no control character. -/
def Mode.after (c : Char) (mode : Mode) : Mode :=
  if c < '\x7f' then mode.afterVisible c else mode.afterWide c

/-- Whether a mode is inside of a string, where control characters have no effect. -/
def Mode.isString : Mode → Bool
  | text | escape | intermediate | control => false
  | command | deviceHead | deviceParameters | deviceIntermediate | string => true

/-- What is known after a part of a text. -/
structure Reader where
  /-- The kind of sequence that is open. -/
  mode : Mode
  /-- Whether the sequence is suspended. -/
  suspended : Bool
  deriving DecidableEq, Repr

namespace Reader

/-- The reader of a text from its start, or past the end of a sequence. -/
def idle : Reader := ⟨.text, false⟩

/-- Whether the next visible character is text. -/
def takesText (r : Reader) : Bool := r.suspended || r.mode = .text

/-- The reader after a control character, and whether that is text. An escape character begins a
sequence anywhere, and the two characters that cancel a sequence do so anywhere. -/
def onControl (r : Reader) (c : Char) : Reader × Bool :=
  if c = '\x1b' then (⟨.escape, false⟩, false)
  else if c = '\x18' || c = '\x1a' then (idle, false)
  else if isBlank c && !r.mode.isString then (⟨r.mode, true⟩, true)
  else if c = '\x07' && r.mode = .command then (idle, false)
  else (⟨r.mode, false⟩, false)

/-- The reader after a character, and whether the character is text. A character beyond ASCII that
is text ends a suspended sequence. -/
def step (r : Reader) (c : Char) : Reader × Bool :=
  if c < ' ' || c = '\x7f' then r.onControl c
  else if r.takesText then (if c < '\x7f' then r else idle, true)
  else (⟨r.mode.after c, false⟩, false)

end Reader

/-- The characters that are text, for a reader in the middle of a text. -/
def plainFrom (r : Reader) : List Char → List Char
  | [] => []
  | c :: cs =>
    let (after, isText) := r.step c
    if isText then c :: plainFrom after cs else plainFrom after cs

/-- A text without control characters and control sequences. -/
def plain (s : String) : String := String.ofList (plainFrom .idle s.toList)

end VulkanExec.Text.Terminal
