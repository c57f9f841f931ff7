/-!
# The pen of a terminal

Colours and attributes in which a terminal writes.  A control sequence that ends in `m` changes
them by a list of codes; `Pen.sequence` is the one that sets a whole pen.
-/

namespace Boardwright.Terminal

inductive Color where
  /-- One of eight colours, or of the same eight in a brighter tone. -/
  | basic (number : Nat)
  | indexed (number : Nat)
  | direct (red green blue : Nat)
  deriving DecidableEq, Repr

/-- A number in a control sequence, and whether it is tied to the next one by a colon. -/
structure Code where
  value : Nat
  tied : Bool := false
  deriving DecidableEq, Repr

structure Pen where
  /-- The codes of the attributes that are on. -/
  attributes : List Nat := []
  /-- The kind of line below the text, or zero. -/
  underline : Nat := 0
  foreground : Option Color := none
  background : Option Color := none
  lineColor : Option Color := none
  deriving DecidableEq, Repr, Inhabited

namespace Pen

def turnOn (p : Pen) (code : Nat) : Pen := { p with attributes := code :: p.attributes }

def turnOff (p : Pen) (codes : List Nat) : Pen :=
  { p with attributes := p.attributes.filter fun code => !codes.contains code }

/-- Sets the colour of one of the three codes for any colour. -/
def paint (p : Pen) (code : Nat) (color : Option Color) : Pen :=
  if code = 38 then { p with foreground := color }
  else if code = 48 then { p with background := color }
  else { p with lineColor := color }

/-- The pen after a code that needs no others. -/
def change (p : Pen) (code : Nat) : Pen :=
  if code = 0 then {}
  else if code = 4 then { p with underline := 1 }
  else if code < 10 then p.turnOn code
  else if code = 22 then p.turnOff [1, 2]
  else if code = 23 then p.turnOff [3]
  else if code = 24 then { p with underline := 0 }
  else if code = 25 then p.turnOff [5, 6]
  else if 27 ≤ code && code ≤ 29 then p.turnOff [code - 20]
  else if 30 ≤ code && code ≤ 37 then { p with foreground := some (.basic (code - 30)) }
  else if code = 39 then { p with foreground := none }
  else if 40 ≤ code && code ≤ 47 then { p with background := some (.basic (code - 40)) }
  else if code = 49 then { p with background := none }
  else if code = 59 then { p with lineColor := none }
  else if 90 ≤ code && code ≤ 97 then { p with foreground := some (.basic (code - 82)) }
  else if 100 ≤ code && code ≤ 107 then { p with background := some (.basic (code - 92)) }
  else p

def isColorCode (code : Nat) : Bool := code = 38 || code = 48 || code = 58

/-- The pen after a list of codes. -/
def changes (p : Pen) : List Code → Pen
  | [] => p
  | ⟨4, true⟩ :: kind :: rest =>
    if kind.value ≤ 5 then changes { p with underline := kind.value } rest
    else changes p (kind :: rest)
  | code :: rest =>
    if isColorCode code.value then
      match rest with
      | ⟨0, _⟩ :: rest => changes (p.paint code.value none) rest
      | ⟨1, _⟩ :: rest => changes (p.paint code.value (some (.direct 0 0 0))) rest
      | ⟨5, t⟩ :: ⟨n, false⟩ :: more =>
        if t = code.tied then changes (p.paint code.value (some (.indexed (n % 256)))) more
        else changes p (⟨5, t⟩ :: ⟨n, false⟩ :: more)
      | ⟨2, true⟩ :: ⟨s, true⟩ :: ⟨r, true⟩ :: ⟨g, true⟩ :: ⟨b, false⟩ :: more =>
        if code.tied then
          changes (p.paint code.value (some (.direct (r % 256) (g % 256) (b % 256)))) more
        else changes p (⟨2, true⟩ :: ⟨s, true⟩ :: ⟨r, true⟩ :: ⟨g, true⟩ :: ⟨b, false⟩ :: more)
      | ⟨2, t⟩ :: ⟨r, u⟩ :: ⟨g, v⟩ :: ⟨b, false⟩ :: more =>
        if t = code.tied && u = code.tied && v = code.tied then
          changes (p.paint code.value (some (.direct (r % 256) (g % 256) (b % 256)))) more
        else changes p (⟨2, t⟩ :: ⟨r, u⟩ :: ⟨g, v⟩ :: ⟨b, false⟩ :: more)
      | rest => changes p rest
    else changes (p.change code.value) rest

/-- The pen after a control sequence.  One without codes resets the pen. -/
def apply (p : Pen) (codes : List Code) : Pen := if codes.isEmpty then {} else p.changes codes

/-! ## Writing -/

/-- The codes that set a colour. -/
def colorCodes (base : Nat) : Color → String
  | .basic n => toString (if n < 8 then base - 8 + n else base + 44 + n)
  | .indexed n => toString base ++ ";5;" ++ toString n
  | .direct r g b => toString base ++ ";2;" ++ toString r ++ ";" ++ toString g ++ ";" ++ toString b

/-- The codes that set a pen. -/
def codes (p : Pen) : List String :=
  ([1, 2, 3, 5, 6, 7, 8, 9].filter p.attributes.contains).map toString ++
    (if p.underline = 0 then [] else if p.underline = 1 then ["4"]
      else ["4:" ++ toString p.underline]) ++
    (p.foreground.map (colorCodes 38)).toList ++ (p.background.map (colorCodes 48)).toList ++
    (p.lineColor.map (colorCodes 58)).toList

/-- The control sequence that sets a pen. -/
def sequence (p : Pen) : List Char :=
  "\x1b[".toList ++ (";".intercalate p.codes).toList ++ ['m']

/-- Whether nothing is set. -/
def isPlain (p : Pen) : Bool := p.codes.isEmpty

end Pen

end Boardwright.Terminal
