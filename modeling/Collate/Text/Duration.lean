namespace Collate.Text

private def places (thousandths : Nat) : String :=
  let digits := (Nat.toDigits 10 (1000 + thousandths)).drop 1
  String.ofList ((digits.reverse.dropWhile (· = '0')).reverse)

def duration (milliseconds : Nat) : String :=
  let seconds := milliseconds / 1000
  let rest := milliseconds % 1000
  if milliseconds = 0 then "0ns"
  else if seconds = 0 then toString rest ++ "ms"
  else if rest = 0 then toString seconds ++ "s"
  else toString seconds ++ "." ++ places rest ++ "s"

end Collate.Text
