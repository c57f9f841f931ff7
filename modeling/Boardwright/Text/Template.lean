import Boardwright.Text.Quoted
import Boardwright.Text.Split

/-!
# Message templates

A template is text with slots.  `%s` takes the next argument as it is, `%q` takes it quoted and
`%%` is a percent sign.  A slot without an argument, an argument without a slot and a slot of
another kind leave a visible mark in the message instead of failing.
-/

namespace Boardwright.Text

/-- Fills the slots from left to right.  Returns the text and the arguments that were not used. -/
def fillChars : List Char → List String → List Char × List String
  | [], args => ([], args)
  | ['%'], args => ("%!(NOVERB)".toList, args)
  | '%' :: verb :: cs, args =>
    if verb = '%' then
      let (text, rest) := fillChars cs args
      ('%' :: text, rest)
    else match args with
      | [] =>
        let (text, rest) := fillChars cs []
        ("%!".toList ++ verb :: "(MISSING)".toList ++ text, rest)
      | arg :: args =>
        let (text, rest) := fillChars cs args
        let filled :=
          if verb = 's' || verb = 'v' then arg.toList
          else if verb = 'q' then (quote arg).toList
          else "%!".toList ++ verb :: "(string=".toList ++ arg.toList ++ [')']
        (filled ++ text, rest)
  | c :: cs, args =>
    let (text, rest) := fillChars cs args
    (c :: text, rest)

/-- The message for a template and its arguments.  Without arguments a template is plain text. -/
def fill (template : String) (args : List String) : String :=
  if args.isEmpty then template
  else
    let (text, rest) := fillChars template.toList args
    let surplus :=
      if rest.isEmpty then ""
      else "%!(EXTRA " ++ join ", " (rest.map ("string=" ++ ·)) ++ ")"
    String.ofList text ++ surplus

end Boardwright.Text
