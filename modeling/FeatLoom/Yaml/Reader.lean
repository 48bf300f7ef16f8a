import FeatLoom.Yaml.Node.OfTokens
import FeatLoom.Yaml.Token.Lexer

/-!
# Reading settings documents

A document holds one value. Mappings and lists are laid out by indentation or written between
brackets; scalars are plain, quoted or written as blocks of lines. A text becomes tokens, the tokens
a node, and the node a value.
-/

namespace FeatLoom.Yaml

def isPrintable (c : Char) : Bool :=
  let n := c.toNat
  n == 0x09 || n == 0x0A || n == 0x0D || (0x20 ≤ n && n ≤ 0x7E) || n == 0x85 ||
    (0xA0 ≤ n && n ≤ 0xFFFD) || 0x10000 ≤ n

def plainBreaks : List Char → List Char
  | [] => []
  | '\r' :: '\n' :: rest => '\n' :: plainBreaks rest
  | '\r' :: rest => '\n' :: plainBreaks rest
  | c :: rest => c :: plainBreaks rest

def read (text : String) : Except Error Value := do
  let chars := plainBreaks text.toList
  if !chars.all isPrintable then throw .malformed
  let (tokens, fault) := tokens chars
  (← Node.ofTokens tokens fault).denoted.toExcept

end FeatLoom.Yaml
