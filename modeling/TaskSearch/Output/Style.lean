set_option autoImplicit false

namespace TaskSearch.Output

inductive Style where
  | bold
  | dimmed
  | red
  | green
  | yellow
  | cyan
deriving DecidableEq, Repr

namespace Style

def opening : Style → String
  | bold => "\x1b[1m"
  | dimmed => "\x1b[2m"
  | red => "\x1b[31m"
  | green => "\x1b[32m"
  | yellow => "\x1b[33m"
  | cyan => "\x1b[36m"

def closing : Style → String
  | bold | dimmed => "\x1b[0m"
  | _ => "\x1b[39m"

def apply (style : Style) (colors : Bool) (text : String) : String :=
  if colors then style.opening ++ text ++ style.closing else text

end Style

def column (width : Nat) (text : String) : String :=
  text ++ String.ofList (List.replicate (width - text.length) ' ')

end TaskSearch.Output
