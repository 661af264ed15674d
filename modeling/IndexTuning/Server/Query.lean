/-! The texts of the metadata queries. -/

namespace IndexTuning.Server.Query

def databases : String :=
  "SELECT name
FROM sys.databases
WHERE database_id > 4
  AND state_desc = 'ONLINE'
ORDER BY name;"

def physicalStats : String :=
  "SELECT
    DB_NAME() AS database_name,
    s.name AS schema_name,
    t.name AS table_name,
    i.name AS index_name,
    CAST(ps.avg_fragmentation_in_percent AS FLOAT) AS fragmentation,
    CAST(ps.page_count AS BIGINT) AS page_count
FROM sys.dm_db_index_physical_stats(DB_ID(), NULL, NULL, NULL, 'LIMITED') AS ps
JOIN sys.indexes i ON ps.object_id = i.object_id AND ps.index_id = i.index_id
JOIN sys.tables t ON i.object_id = t.object_id
JOIN sys.schemas s ON t.schema_id = s.schema_id
WHERE ps.database_id = DB_ID()
  AND ps.page_count > @P1
  AND i.name IS NOT NULL
ORDER BY ps.avg_fragmentation_in_percent DESC;"

def usageStats : String :=
  "SELECT
    DB_NAME() AS database_name,
    OBJECT_SCHEMA_NAME(i.object_id) AS schema_name,
    OBJECT_NAME(i.object_id) AS table_name,
    i.name AS index_name,
    CAST(s.user_seeks AS BIGINT) AS user_seeks,
    CAST(s.user_scans AS BIGINT) AS user_scans,
    CAST(s.user_lookups AS BIGINT) AS user_lookups,
    CAST(s.user_updates AS BIGINT) AS user_updates,
    CAST(SUM(ps.used_page_count) * 8 AS BIGINT) AS index_size_kb
FROM sys.indexes AS i
INNER JOIN sys.dm_db_index_usage_stats AS s
    ON i.object_id = s.object_id
    AND i.index_id = s.index_id
    AND s.database_id = DB_ID()
INNER JOIN sys.dm_db_partition_stats AS ps
    ON i.object_id = ps.object_id
    AND i.index_id = ps.index_id
WHERE i.is_primary_key = 0
  AND i.is_unique_constraint = 0
  AND i.name IS NOT NULL
  AND i.type_desc = 'NONCLUSTERED'
GROUP BY i.object_id, i.name, s.user_seeks, s.user_scans, s.user_lookups, s.user_updates
ORDER BY index_size_kb DESC;"

def missingStats : String :=
  "SELECT
    DB_NAME(mid.database_id) AS database_name,
    OBJECT_SCHEMA_NAME(mid.object_id, mid.database_id) AS schema_name,
    OBJECT_NAME(mid.object_id, mid.database_id) AS table_name,
    mid.equality_columns,
    mid.inequality_columns,
    mid.included_columns,
    CAST(migs.unique_compiles AS BIGINT) AS unique_compiles,
    CAST(migs.user_seeks AS BIGINT) AS user_seeks,
    CAST(migs.user_scans AS BIGINT) AS user_scans,
    CAST(migs.avg_total_user_cost AS FLOAT) AS avg_total_user_cost,
    CAST(migs.avg_user_impact AS FLOAT) AS avg_user_impact
FROM sys.dm_db_missing_index_group_stats AS migs
INNER JOIN sys.dm_db_missing_index_groups AS mig
    ON migs.group_handle = mig.index_group_handle
INNER JOIN sys.dm_db_missing_index_details AS mid
    ON mig.index_handle = mid.index_handle
WHERE mid.database_id = DB_ID()
  AND OBJECT_SCHEMA_NAME(mid.object_id, mid.database_id) IS NOT NULL
  AND OBJECT_NAME(mid.object_id, mid.database_id) IS NOT NULL
ORDER BY migs.user_seeks DESC, migs.avg_user_impact DESC;"

def tables : String :=
  "SELECT TABLE_SCHEMA, TABLE_NAME
FROM INFORMATION_SCHEMA.TABLES
WHERE TABLE_TYPE = 'BASE TABLE'
ORDER BY TABLE_SCHEMA, TABLE_NAME;"

def columns : String :=
  "SELECT COLUMN_NAME, DATA_TYPE
FROM INFORMATION_SCHEMA.COLUMNS
WHERE TABLE_SCHEMA = @P1 AND TABLE_NAME = @P2
ORDER BY ORDINAL_POSITION;"

def procedures : String :=
  "SELECT
    SCHEMA_NAME(schema_id) AS schema_name,
    name,
    CAST(ISNULL(OBJECTPROPERTY(object_id, 'IsEncrypted'), 0) AS INT) AS is_encrypted
FROM sys.objects
WHERE type = 'P'
ORDER BY schema_name, name;"

def definition : String :=
  "SELECT sm.definition
FROM sys.sql_modules sm
INNER JOIN sys.objects o ON sm.object_id = o.object_id
INNER JOIN sys.schemas s ON o.schema_id = s.schema_id
WHERE s.name = @P1 AND o.name = @P2;"

def indexes : String :=
  "SELECT
    s.name AS schema_name,
    t.name AS table_name,
    i.name AS index_name,
    i.type_desc,
    CAST(i.is_unique AS INT) AS is_unique,
    CAST(i.is_primary_key AS INT) AS is_primary_key,
    c.name AS column_name,
    CAST(ic.is_included_column AS INT) AS is_included
FROM sys.indexes i
INNER JOIN sys.tables t ON i.object_id = t.object_id
INNER JOIN sys.schemas s ON t.schema_id = s.schema_id
INNER JOIN sys.index_columns ic ON ic.object_id = i.object_id AND ic.index_id = i.index_id
INNER JOIN sys.columns c ON c.object_id = ic.object_id AND c.column_id = ic.column_id
WHERE s.name = @P1 AND t.name = @P2 AND i.name IS NOT NULL
ORDER BY i.index_id, ic.is_included_column, ic.key_ordinal, ic.index_column_id;"

end IndexTuning.Server.Query
