import ViewQuery.Decimal.Numeral

set_option autoImplicit false

namespace ViewQuery.Text

open Decimal (natText)

def stripZeros (cs : List Char) : List Char :=
  (cs.reverse.dropWhile (· = '0')).reverse

def thousandths (n : Nat) : List Char :=
  stripZeros ((natText (1000 + n % 1000)).drop 1)

def durationText (milliseconds : Nat) : String :=
  String.ofList <|
    if milliseconds = 0 then ['0', 'n', 's']
    else if milliseconds < 1000 then natText milliseconds ++ ['m', 's']
    else
      let fraction := thousandths milliseconds
      natText (milliseconds / 1000)
        ++ (if fraction.isEmpty then [] else '.' :: fraction) ++ ['s']

end ViewQuery.Text
