import IndexTuning.Answer

namespace IndexTuning.Prompt

open Text

def placeholder : String := "(no table metadata)"

def tableText (info : String) : String := if isAllBlank info.toList then placeholder else info

def forIndexes (procedure tableInfo : String) : String :=
  "You are a SQL performance tuning expert.

Analyze the stored procedures and table definitions below. Recommend only additional NONCLUSTERED indexes that will significantly improve SELECT, JOIN, and ORDER BY performance.

Rules:
1. Only suggest indexes if the column(s) appear in WHERE, JOIN, or ORDER BY clauses.
2. Do NOT suggest indexes if the column is already indexed (clustered or non-clustered).
3. Avoid low-selectivity columns (boolean flags, tiny lookup codes) unless combined with another column in a composite index.
4. Avoid frequently updated columns unless the read gain clearly outweighs the write cost.
5. Use composite indexes only when the query pattern needs them.
6. Output only the CREATE INDEX statements, using this format:

CREATE INDEX IX_<Table>_<Column> ON [<DatabaseName>].[<SchemaName>].[<TableName>] (<Column>);

=== STORED PROCEDURES ===
" ++ trimmed procedure ++ "

=== TABLE STRUCTURE & INDEX ===
" ++ tableText tableInfo ++ "
"

def forRevision (procedure tableInfo : String) : String :=
  "You are a SQL Server expert. Optimize the following stored procedure for performance and clarity.

=== BEGIN SP ===
" ++ trimmed procedure ++ "
=== END SP ===

Related tables, with their columns and existing indexes:

=== BEGIN TABLE INFO ===
" ++ tableText tableInfo ++ "
=== END TABLE INFO ===

The optimized procedure must:
- keep the result set and schema unchanged (column names, table names, structure)
- replace every SELECT * with an explicit column list based on the table metadata
- reorder joins or filters only where that keeps the logic intact
- not add or suggest indexes
- use only features available in SQL Server Standard Edition
- be a single valid stored procedure that runs as-is

Return only the optimized stored procedure, after this line:

" ++ Answer.startMarker ++ "
"

end IndexTuning.Prompt
