import EmbeddedSql.Sql.Token

/-! Which words are reserved. Many keywords can still be names wherever the grammar
has no other use for them. -/

namespace EmbeddedSql.Sql.Keyword

def reserved : List Bytes :=
  ["ADD", "ALL", "ALTER", "AND", "AS", "AUTOINCREMENT", "BETWEEN", "CASE", "CHECK", "COLLATE",
    "COMMIT", "CONSTRAINT", "CREATE", "DEFAULT", "DEFERRABLE", "DELETE", "DISTINCT", "DROP",
    "ELSE", "ESCAPE", "EXCEPT", "EXISTS", "FOREIGN", "FROM", "GROUP", "HAVING", "IN", "INDEX",
    "INSERT", "INTERSECT", "INTO", "IS", "ISNULL", "JOIN", "LIMIT", "NOT", "NOTHING", "NOTNULL",
    "NULL", "ON", "OR", "ORDER", "PRIMARY", "REFERENCES", "RETURNING", "SELECT", "SET", "TABLE",
    "THEN", "TO", "TRANSACTION", "UNION", "UNIQUE", "UPDATE", "USING", "VALUES", "WHEN",
    "WHERE"].map Bytes.ofAscii

def joining : List Bytes :=
  ["CROSS", "FULL", "INDEXED", "INNER", "LEFT", "NATURAL", "OUTER", "RIGHT"].map Bytes.ofAscii

private def isOneOf (words : List Bytes) (token : Token) : Bool :=
  let folded := token.text.map Bytes.toUpper
  words.contains folded

def isName (token : Token) : Bool :=
  token.kind = .quotedName ||
    (token.kind = .word && !isOneOf reserved token && !isOneOf joining token)

def isWideName (token : Token) : Bool :=
  token.kind = .quotedName || (token.kind = .word && !isOneOf reserved token)

end EmbeddedSql.Sql.Keyword
