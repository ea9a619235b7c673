/-!
Blank characters: the separators and the control characters that count as white space, among them
the four information separators U+001C to U+001F.
-/
namespace Accounts.Text

def blanks : List Char :=
  ['\u0009', '\u000A', '\u000B', '\u000C', '\u000D', '\u001C', '\u001D', '\u001E', '\u001F',
   '\u0020', '\u0085', '\u00A0', '\u1680', '\u2000', '\u2001', '\u2002', '\u2003', '\u2004',
   '\u2005', '\u2006', '\u2007', '\u2008', '\u2009', '\u200A', '\u2028', '\u2029', '\u202F',
   '\u205F', '\u3000']

def isBlank (c : Char) : Bool := blanks.contains c

end Accounts.Text
