import SqlRender.Dialect.Basic

namespace SqlRender.Dialect

/-- Names stand in back quotes, a backslash escapes in strings, and a repeated key overwrites by
ON DUPLICATE KEY. -/
def mysql : Dialect where
  name := "mysql"
  kind := "MySQLDialect"
  identifierQuotes := ("\x60", "\x60")
  stringEscapes := [('\x00', "\\0"), ('\n', "\\n"), ('\r', "\\r"), ('\\', "\\\\"),
    ('\'', "\\'"), ('"', "\\\""), ('\x1a', "\\Z")]
  boolLiterals := ("1", "0")
  proposedQuotes := some ("VALUES(", ")")
  capabilities :=
    { upsertStyle := some .onDuplicateKey
      fullJoin := false
      offsetWithoutLimit := false
      backslashEscapes := true }

/-- Strings are standard, placeholders are numbered. -/
def postgres : Dialect where
  name := "postgres"
  kind := "PostgresDialect"
  forbidden := ['\x00']
  bytesQuotes := ("'\\x", "'::bytea")
  placeholderStyle := .numbered
  proposedQuotes := some ("EXCLUDED.", "")
  capabilities :=
    { upsertStyle := some .onConflict
      returning := true
      sourcelessSelect := true }

/-- Truth values are integers, and the members of a compound take no parentheses. -/
def sqlite : Dialect where
  name := "sqlite"
  kind := "SQLiteDialect"
  forbidden := ['\x00']
  boolLiterals := ("1", "0")
  proposedQuotes := some ("excluded.", "")
  capabilities :=
    { upsertStyle := some .onConflict
      returning := true
      fullJoin := false
      sourcelessSelect := true
      offsetWithoutLimit := false
      parenthesizedCompound := false }

/-- There are no transactions and no upserts, datetimes have whole seconds, and literals are
inlined. -/
def clickhouse : Dialect where
  name := "clickhouse"
  kind := "ClickHouseDialect"
  identifierQuotes := ("\x60", "\x60")
  stringEscapes := [('\x00', "\\0"), ('\x08', "\\b"), ('\x0c', "\\f"), ('\n', "\\n"),
    ('\r', "\\r"), ('\t', "\\t"), ('\\', "\\\\"), ('\'', "\\'")]
  boolLiterals := ("1", "0")
  fractionalSeconds := false
  bytesQuotes := ("unhex('", "')")
  inlines := true
  capabilities :=
    { transactions := false
      sourcelessSelect := true
      backslashEscapes := true }

end SqlRender.Dialect
