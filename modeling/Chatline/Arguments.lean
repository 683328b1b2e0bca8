import Chatline.Text.Digit

namespace Chatline

structure OptionSpec (κ : Type) where
  key        : κ
  spellings  : List String
  takesValue : Bool := true
  ends       : Bool := false

namespace Arguments

variable {κ : Type}

inductive Shape (κ : Type)
  | value
  | separator
  | known (spec : OptionSpec κ) (isShort : Bool) (attached : Option (List Char))
  | unknown

def find? (specs : List (OptionSpec κ)) (spelling : String) : Option (OptionSpec κ) :=
  specs.find? (·.spellings.contains spelling)

def splitAttached (s : List Char) : List Char × Option (List Char) :=
  let name := s.takeWhile (· ≠ '=')
  (name, if name.length < s.length then some (s.drop (name.length + 1)) else none)

def candidates (specs : List (OptionSpec κ)) (start : List Char) : List (OptionSpec κ) :=
  specs.flatMap fun spec =>
    (spec.spellings.filter fun s => start.isPrefixOf s.toList).map fun _ => spec

def isNegativeNumber (s : List Char) : Bool :=
  let s := if s.getLast? = some '\n' then s.dropLast else s
  match s with
  | '-' :: cs =>
    let whole := cs.takeWhile Text.isDigit
    match cs.dropWhile Text.isDigit with
    | []          => !whole.isEmpty
    | '.' :: rest => !rest.isEmpty && rest.all Text.isDigit
    | _           => false
  | _         => false

-- What an argument looks like, or nothing if it could be one of several options. Options may be
-- shortened, and short ones may have their value attached.
def shape? (specs : List (OptionSpec κ)) (s : String) : Option (Shape κ) :=
  let cs := s.toList
  let isLong := ['-', '-'].isPrefixOf cs
  let leftover : Shape κ :=
    if isNegativeNumber cs || cs.contains ' ' then .value else .unknown
  if cs.head? ≠ some '-' then some .value
  else
    match find? specs s with
    | some spec => some (.known spec (!isLong) none)
    | none      =>
      if cs.length = 1 then some .value
      else
        let (name, attached) := splitAttached cs
        match attached, find? specs (.ofList name) with
        | some v, some spec => some (.known spec (!isLong) (some v))
        | _, _              =>
          if isLong then
            match candidates specs name with
            | []     => some leftover
            | [spec] => some (.known spec false attached)
            | _      => none
          else
            match find? specs (.ofList (cs.take 2)) with
            | some spec => some (.known spec true (some (cs.drop 2)))
            | none      => some leftover

def shapes? (specs : List (OptionSpec κ)) : List String → Option (List (String × Shape κ))
  | []      => some []
  | a :: as =>
    if a = "--" then some ((a, .separator) :: as.map fun a => (a, .value))
    else do
      let shape ← shape? specs a
      return (a, shape) :: (← shapes? specs as)

structure Found (κ : Type) where
  options : List (OptionSpec κ × String)
  extras  : List String
  command : Option (List String)

structure Taken (κ : Type) where
  options : List (OptionSpec κ × String)
  rest    : List (String × Shape κ)

def takeNext (spec : OptionSpec κ) (rest : List (String × Shape κ)) : Option (Taken κ) :=
  if spec.takesValue then
    match rest with
    | (v, .value) :: rest => some { options := [(spec, v)], rest }
    | _                   => none
  else some { options := [(spec, "")], rest }

def takeAttached (specs : List (OptionSpec κ)) (spec : OptionSpec κ) (isShort : Bool)
    (rest : List (String × Shape κ)) : List Char → Option (Taken κ)
  | []      => if spec.takesValue then some { options := [(spec, "")], rest } else none
  | c :: cs =>
    if spec.takesValue then some { options := [(spec, .ofList (c :: cs))], rest }
    else if isShort then do
      let next ← find? specs (.ofList ['-', c])
      let taken ←
        match cs with
        | []      => takeNext next rest
        | c :: cs => takeAttached specs next true rest (c :: cs)
      return { taken with options := (spec, "") :: taken.options }
    else none

def take (specs : List (OptionSpec κ)) (spec : OptionSpec κ) (isShort : Bool)
    (attached : Option (List Char)) (rest : List (String × Shape κ)) : Option (Taken κ) :=
  match attached with
  | none    => takeNext spec rest
  | some cs => takeAttached specs spec isShort rest cs

-- Reads arguments from left to right, up to an option that ends the reading or, if commands are
-- admitted, up to the first value. `fuel` has to exceed the number of arguments.
def scan (specs : List (OptionSpec κ)) (admitsCommand : Bool) :
    (fuel : Nat) → List (String × Shape κ) → Option (Found κ)
  | 0,        _       => none
  | _ + 1,    []      => some { options := [], extras := [], command := none }
  | fuel + 1, (a, shape) :: rest =>
    let asExtra := do
      let found ← scan specs admitsCommand fuel rest
      return { found with extras := a :: found.extras }
    let asCommand := some { options := [], extras := [], command := some (a :: rest.map (·.1)) }
    match shape with
    | .unknown   => asExtra
    | .value     => if admitsCommand then asCommand else asExtra
    | .separator => if admitsCommand && !rest.isEmpty then asCommand else asExtra
    | .known spec isShort attached => do
      let taken ← take specs spec isShort attached rest
      if taken.options.any (·.1.ends) then
        return { options := taken.options, extras := [], command := none }
      else
        let found ← scan specs admitsCommand fuel taken.rest
        return { found with options := taken.options ++ found.options }

def read? (specs : List (OptionSpec κ)) (admitsCommand : Bool) (args : List String) :
    Option (Found κ) := do
  scan specs admitsCommand (args.length + 1) (← shapes? specs args)

end Arguments

namespace Arguments.Found

variable {κ : Type} [DecidableEq κ]

def ending? (f : Found κ) : Option κ :=
  (f.options.find? (·.1.ends)).map (·.1.key)

def value? (f : Found κ) (key : κ) : Option String :=
  (f.options.reverse.find? (·.1.key = key)).map (·.2)

def has (f : Found κ) (key : κ) : Bool :=
  (f.value? key).isSome

end Arguments.Found
end Chatline
