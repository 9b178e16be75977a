import PgVitals.Catalog.Fragment
import PgVitals.Value
/-!
# Sections of the report

The report is a flat list of headings, single values and tables. A section whose query changed has
several fragments; a section without a fragment that applies is left out. The queries read from
helper objects in a schema of the report's own, which is created before the first section and
dropped after the last.

* `Report.helperObjects` are the helper objects, in the order of their creation, and
  `Report.extensions` the extensions that some sections read from.
* `Report.sections` is the report. `Report.value`, `Report.table`, `Report.extensionTable` and
  `Report.variants` make its sections, and `Report.Section.sql?` is the query of a section for a
  release.
* `Report.plan` are the sections that a server of a release gets, without those that are excluded.
  Headings are never excluded by a release, but may be by their titles.

The title of the part on one database holds a mark, for which the name of the database stands when
the heading is printed.
-/

namespace PgVitals.Catalog.Report

/-! ## Helper objects -/

/-- The schema that holds the helper objects. -/
def schema : String := "pgreport"

/-- The extension that shows the buffer cache. -/
def bufferCache : String := "pg_buffercache"

/-- The extension that shows the visibility map. -/
def visibility : String := "pg_visibility"

/-- The extensions that sections read from. -/
def extensions : List String := [bufferCache, visibility]

/-- Creates the schema; fails when there is one. -/
def createSchema : String := "CREATE SCHEMA pgreport"

/-- Puts the schema in front; extensions installed before stay in reach. -/
def setSearchPath : String := "SET search_path TO pgreport, public"

/-- Drops the schema and everything in it. -/
def dropSchema : String := "DROP SCHEMA IF EXISTS pgreport CASCADE"

/-- Asks whether an extension is installed; returns no row where the server does not have it. -/
def extensionStateQuery : String :=
  "SELECT installed_version IS NOT NULL FROM pg_available_extensions WHERE name = %(name)s"

/-- Installs an extension into the schema. -/
def createExtension (name : String) : String :=
  "CREATE EXTENSION " ++ name ++ " SCHEMA " ++ schema

/-- Installs an extension into the schema, unless it is installed. -/
def createExtensionIfMissing (name : String) : String :=
  "CREATE EXTENSION IF NOT EXISTS " ++ name ++ " SCHEMA " ++ schema

/-- Defines the function that reads a storage option of a relation, or else the setting. -/
def getValueFunction : String :=
  "CREATE FUNCTION get_value(param text, reloptions text[], relkind \"char\") RETURNS float AS " ++
    "$$ SELECT coalesce((SELECT option_value FROM pg_options_to_table(reloptions) WHERE " ++
    "option_name = CASE WHEN relkind = 't' THEN 'toast.' ELSE '' END || param), " ++
    "current_setting(param))::float; $$ LANGUAGE sql"

/-- Defines the view that estimates the wasted space of tables. -/
def bloatTableView : String :=
  "CREATE TEMPORARY VIEW bloat_table AS SELECT schemaname, tblname, bs*tblpages AS real_size, " ++
    "(tblpages-est_tblpages)*bs AS extra_size, CASE WHEN tblpages - est_tblpages > 0 THEN 100 " ++
    "* (tblpages - est_tblpages)/tblpages::float ELSE 0 END AS extra_ratio, fillfactor, CASE " ++
    "WHEN tblpages - est_tblpages_ff > 0 THEN (tblpages-est_tblpages_ff)*bs ELSE 0 END AS " ++
    "bloat_size, CASE WHEN tblpages - est_tblpages_ff > 0 THEN 100 * (tblpages - " ++
    "est_tblpages_ff)/tblpages::float ELSE 0 END AS bloat_ratio, is_na FROM ( SELECT ceil( " ++
    "reltuples / ( (bs-page_hdr)/tpl_size ) ) + ceil( toasttuples / 4 ) AS est_tblpages, " ++
    "ceil( reltuples / ( (bs-page_hdr)*fillfactor/(tpl_size*100) ) ) + ceil( toasttuples / 4 " ++
    ") AS est_tblpages_ff, tblpages, fillfactor, bs, tblid, schemaname, tblname, heappages, " ++
    "toastpages, is_na FROM ( SELECT ( 4 + tpl_hdr_size + tpl_data_size + (2*ma) - CASE WHEN " ++
    "tpl_hdr_size%ma = 0 THEN ma ELSE tpl_hdr_size%ma END - CASE WHEN " ++
    "ceil(tpl_data_size)::int%ma = 0 THEN ma ELSE ceil(tpl_data_size)::int%ma END) AS " ++
    "tpl_size, bs - page_hdr AS size_per_block, (heappages + toastpages) AS tblpages, " ++
    "heappages, toastpages, reltuples, toasttuples, bs, page_hdr, tblid, schemaname, tblname, " ++
    "fillfactor, is_na FROM ( SELECT tbl.oid AS tblid, ns.nspname AS schemaname, tbl.relname " ++
    "AS tblname, tbl.reltuples, tbl.relpages AS heappages, coalesce(toast.relpages, 0) AS " ++
    "toastpages, coalesce(toast.reltuples, 0) AS toasttuples, coalesce(substring( " ++
    "array_to_string(tbl.reloptions, ' ') FROM 'fillfactor=([0-9]+)')::smallint, 100) AS " ++
    "fillfactor, current_setting('block_size')::numeric AS bs, CASE WHEN version()~'mingw32' " ++
    "OR version()~'64-bit|x86_64|ppc64|ia64|amd64' THEN 8 ELSE 4 END AS ma, 24 AS page_hdr, " ++
    "23 + CASE WHEN MAX(coalesce(s.null_frac,0)) > 0 THEN ( 7 + count(s.attname) ) / 8 ELSE " ++
    "0::int END + CASE WHEN bool_or(att.attname = 'oid' and att.attnum < 0) THEN 4 ELSE 0 END " ++
    "AS tpl_hdr_size, sum( (1-coalesce(s.null_frac, 0)) * coalesce(s.avg_width, 0) ) AS " ++
    "tpl_data_size, bool_or(att.atttypid = 'pg_catalog.name'::regtype) OR sum(CASE WHEN " ++
    "att.attnum > 0 THEN 1 ELSE 0 END) <> count(s.attname) AS is_na FROM pg_attribute AS att " ++
    "JOIN pg_class AS tbl ON att.attrelid = tbl.oid JOIN pg_namespace AS ns ON ns.oid = " ++
    "tbl.relnamespace LEFT JOIN pg_stats AS s ON s.schemaname=ns.nspname AND s.tablename = " ++
    "tbl.relname AND s.inherited=false AND s.attname=att.attname LEFT JOIN pg_class AS toast " ++
    "ON tbl.reltoastrelid = toast.oid WHERE NOT att.attisdropped AND tbl.relkind in ('r','m') " ++
    "GROUP BY 1,2,3,4,5,6,7,8,9,10 ORDER BY 2,3) AS s) AS s2) AS s3"

/-- Defines the view that estimates the wasted space of indexes. -/
def bloatIndexView : String :=
  "CREATE TEMPORARY VIEW bloat_index AS SELECT nspname AS schemaname, tblname, idxname, " ++
    "bs*(relpages)::bigint AS real_size, bs*(relpages-est_pages)::bigint AS extra_size, 100 * " ++
    "(relpages-est_pages)::float / relpages AS extra_ratio, fillfactor, CASE WHEN relpages > " ++
    "est_pages_ff THEN bs*(relpages-est_pages_ff) ELSE 0 END AS bloat_size, 100 * " ++
    "(relpages-est_pages_ff)::float / relpages AS bloat_ratio, is_na FROM ( SELECT coalesce(1 " ++
    "+ ceil(reltuples/floor((bs-pageopqdata-pagehdr)/(4+nulldatahdrwidth)::float)), 0) AS " ++
    "est_pages, coalesce(1 + " ++
    "ceil(reltuples/floor((bs-pageopqdata-pagehdr)*fillfactor/" ++
    "(100*(4+nulldatahdrwidth)::float))), " ++
    "0) AS est_pages_ff, bs, nspname, tblname, idxname, relpages, fillfactor, is_na FROM ( " ++
    "SELECT maxalign, bs, nspname, tblname, idxname, reltuples, relpages, idxoid, fillfactor, " ++
    "( index_tuple_hdr_bm + maxalign - CASE WHEN index_tuple_hdr_bm%maxalign = 0 THEN " ++
    "maxalign ELSE index_tuple_hdr_bm%maxalign END + nulldatawidth + maxalign - CASE WHEN " ++
    "nulldatawidth = 0 THEN 0 WHEN nulldatawidth::integer%maxalign = 0 THEN maxalign ELSE " ++
    "nulldatawidth::integer%maxalign END)::numeric AS nulldatahdrwidth, pagehdr, pageopqdata, " ++
    "is_na FROM ( SELECT n.nspname, i.tblname, i.idxname, i.reltuples, i.relpages, i.idxoid, " ++
    "i.fillfactor, current_setting('block_size')::numeric AS bs, CASE WHEN version() ~ " ++
    "'mingw32' OR version() ~ '64-bit|x86_64|ppc64|ia64|amd64' THEN 8 ELSE 4 END AS maxalign, " ++
    "24 AS pagehdr, 16 AS pageopqdata, CASE WHEN max(coalesce(s.null_frac,0)) = 0 THEN 2 ELSE " ++
    "2 + (( 32 + 8 - 1 ) / 8) END AS index_tuple_hdr_bm, sum( (1-coalesce(s.null_frac, 0)) * " ++
    "coalesce(s.avg_width, 1024)) AS nulldatawidth, max( CASE WHEN i.atttypid = " ++
    "'pg_catalog.name'::regtype THEN 1 ELSE 0 END ) > 0 AS is_na FROM ( SELECT ct.relname AS " ++
    "tblname, ct.relnamespace, ic.idxname, ic.attpos, ic.indkey, ic.indkey[ic.attpos], " ++
    "ic.reltuples, ic.relpages, ic.tbloid, ic.idxoid, ic.fillfactor, coalesce(a1.attnum, " ++
    "a2.attnum) AS attnum, coalesce(a1.attname, a2.attname) AS attname, coalesce(a1.atttypid, " ++
    "a2.atttypid) AS atttypid, CASE WHEN a1.attnum IS NULL THEN ic.idxname ELSE ct.relname " ++
    "END AS attrelname FROM ( SELECT idxname, reltuples, relpages, tbloid, idxoid, " ++
    "fillfactor, indkey, pg_catalog.generate_series(1,indnatts) AS attpos FROM ( SELECT " ++
    "ci.relname AS idxname, ci.reltuples, ci.relpages, i.indrelid AS tbloid, i.indexrelid AS " ++
    "idxoid, coalesce(substring( array_to_string(ci.reloptions, ' ') from " ++
    "'fillfactor=([0-9]+)')::smallint, 90) AS fillfactor, i.indnatts, " ++
    "pg_catalog.string_to_array(pg_catalog.textin( pg_catalog.int2vectorout(i.indkey)),' " ++
    "')::int[] AS indkey FROM pg_catalog.pg_index i JOIN pg_catalog.pg_class ci ON ci.oid = " ++
    "i.indexrelid WHERE ci.relam=(SELECT oid FROM pg_am WHERE amname = 'btree') AND " ++
    "ci.relpages > 0) AS idx_data) AS ic JOIN pg_catalog.pg_class ct ON ct.oid = ic.tbloid " ++
    "LEFT JOIN pg_catalog.pg_attribute a1 ON ic.indkey[ic.attpos] <> 0 AND a1.attrelid = " ++
    "ic.tbloid AND a1.attnum = ic.indkey[ic.attpos] LEFT JOIN pg_catalog.pg_attribute a2 ON " ++
    "ic.indkey[ic.attpos] = 0 AND a2.attrelid = ic.idxoid AND a2.attnum = ic.attpos) i JOIN " ++
    "pg_catalog.pg_namespace n ON n.oid = i.relnamespace JOIN pg_catalog.pg_stats s ON " ++
    "s.schemaname = n.nspname AND s.tablename = i.attrelname AND s.attname = i.attname GROUP " ++
    "BY 1,2,3,4,5,6,7,8,9,10,11) AS rows_data_stats) AS rows_hdr_pdg_stats) AS relation_stats"

/-- Defines the view of the files that belong to no relation. -/
def orphanedFilesView : String :=
  "CREATE TEMPORARY VIEW orphaned_files AS WITH ver AS ( select " ++
    "current_setting('server_version_num') pgversion, " ++
    "v::integer/10000||'.'||mod(v::integer,10000)/100 AS version FROM " ++
    "current_setting('server_version_num') v), tbl_paths AS ( SELECT tbs.oid AS tbs_oid, " ++
    "spcname, 'pg_tblspc/' || tbs.oid || '/' || (SELECT dir FROM " ++
    "pg_ls_dir('pg_tblspc/'||tbs.oid||'/',true,false) dir WHERE dir LIKE " ++
    "E'PG\\_'||ver.version||E'\\_%' ) as tbl_path FROM pg_tablespace tbs, ver WHERE " ++
    "tbs.spcname NOT IN ('pg_default','pg_global')), files AS ( SELECT d.oid AS database_oid, " ++
    "0 AS tbs_oid, 'base/'||d.oid AS path, file_name AS file_name, substring(file_name from " ++
    "E'[0-9]+' ) AS base_name FROM pg_database d, pg_ls_dir('base/' || d.oid,true,false) AS " ++
    "file_name WHERE d.datname = current_database() UNION ALL SELECT d.oid, tbp.tbs_oid, " ++
    "tbl_path||'/'||d.oid, file_name, (substring(file_name from E'[0-9]+' )) AS base_name " ++
    "FROM pg_database d, tbl_paths tbp, pg_ls_dir(tbp.tbl_path||'/'|| d.oid,true,false) AS " ++
    "file_name WHERE d.datname = current_database()), orphans AS ( SELECT tbs_oid, base_name, " ++
    "file_name, current_setting('data_directory')||'/'||path||'/'||file_name as " ++
    "orphaned_file, pg_filenode_relation (tbs_oid,base_name::oid) as rel_without_pgclass FROM " ++
    "ver, files LEFT JOIN pg_class c ON (c.relfilenode::text=files.base_name OR (c.oid::text " ++
    "= files.base_name and c.relfilenode=0 and c.relname like 'pg_%')) WHERE c.oid IS null " ++
    "AND lower(file_name) NOT LIKE 'pg_%') SELECT orphaned_file, " ++
    "pg_size_pretty((pg_stat_file(orphaned_file)).size) as file_size, " ++
    "(pg_stat_file(orphaned_file)).modification as modification_date, current_database() FROM " ++
    "orphans WHERE rel_without_pgclass IS NULL"

/-- The helper objects, in the order of their creation. -/
def helperObjects : List String :=
  [getValueFunction, bloatTableView, bloatIndexView, orphanedFilesView]

/-! ## Sections -/

/-- An entry of the report. -/
inductive Section where
  | heading (title : String)
  /-- A single value behind its label. -/
  | value (label : String) (fragments : List Fragment)
  /-- A table, and the extension it reads from. -/
  | table (title : String) (fragments : List Fragment) (extension : Option String)
deriving DecidableEq, Inhabited

namespace Section

/-- The text of a heading, the label of a value, or the title of a table. -/
def title : Section → String
  | heading title => title
  | value label _ => label
  | table title _ _ => title

/-- The queries of a section. -/
def fragments : Section → List Fragment
  | heading _ => []
  | value _ fragments => fragments
  | table _ fragments _ => fragments

/-- Whether a section is a heading. -/
def isHeading : Section → Bool
  | heading _ => true
  | _ => false

/-- The query for a release. -/
def sql? (s : Section) (release : Release) : Option String :=
  (applicable? s.fragments release).map Fragment.sql

/-- Whether a section has something to show for a release. -/
def applies (s : Section) (release : Release) : Bool :=
  s.isHeading || (s.sql? release).isSome

end Section

/-- A value every server has. -/
def value (label sql : String) : Section := .value label [⟨sql, .always, none⟩]

/-- A table that servers have from a release on. -/
def tableSince (since : Release) (title sql : String) : Section :=
  .table title [⟨sql, since, none⟩] none

/-- A table every server has. -/
def table (title sql : String) : Section := tableSince .always title sql

/-- A table that reads from an extension. -/
def extensionTable (extension title sql : String) : Section :=
  .table title [⟨sql, .always, none⟩] (some extension)

/-- A table whose query changed, newest first. -/
def variants (title : String) (choices : List (Release × String)) : Section :=
  .table title (choices.map fun choice => ⟨choice.2, choice.1, none⟩) none

/-- The title of the part on one database; the braces stand for its name. -/
def localObjectsTitle : String := "Local objects in database \x7bdbname\x7d"

/-- A heading as it is printed in the report on a database. -/
def headingText (title dbname : String) : String :=
  if title == localObjectsTitle then "Local objects in database " ++ dbname else title

/-- The report. -/
def sections : List Section := [
    .heading "PostgreSQL Version",
    value "PostgreSQL version"
      "SELECT version()",
    .heading "PostgreSQL Start time",
    value "PostgreSQL start time"
      "SELECT pg_postmaster_start_time()",
    .heading "PostgreSQL Reload conf time",
    value "PostgreSQL reload conf time"
      "SELECT pg_conf_load_time()",
    .heading "PostgreSQL Configuration",
    table "Settings by source file"
      "SELECT source, sourcefile, count(*) AS nb FROM pg_settings GROUP BY 1, 2",
    table "Non default value and not config file settings"
      ("SELECT source, name, setting, unit FROM pg_settings WHERE source NOT IN ('configuration " ++
        "file', 'default') ORDER BY source, name"),
    tableSince ⟨9, 5⟩ "pg_file_settings"
      "select * from pg_file_settings",
    tableSince ⟨10, 0⟩ "pg_hba_file_rules"
      "select * from pg_hba_file_rules",
    table "pg_settings"
      "select * from pg_settings",
    .heading "Global objects",
    table "Hit ratio"
      ("SELECT 'index hit rate' AS name, 100.*sum(idx_blks_hit) / nullif(sum(idx_blks_hit + " ++
        "idx_blks_read),0) AS ratio FROM pg_statio_user_indexes UNION ALL SELECT 'table hit " ++
        "rate' AS name, 100.*sum(heap_blks_hit) / nullif(sum(heap_blks_hit) + " ++
        "sum(heap_blks_read),0) AS ratio FROM pg_statio_user_tables"),
    table "Databases"
      ("SELECT d.datname as \"Name\", pg_catalog.pg_get_userbyid(d.datdba) as \"Owner\", " ++
        "pg_catalog.pg_encoding_to_char(d.encoding) as \"Encoding\", d.datcollate as " ++
        "\"Collate\", d.datctype as \"Ctype\", pg_catalog.array_to_string(d.datacl, E'\\n') " ++
        "AS \"Access privileges\", CASE WHEN pg_catalog.has_database_privilege(d.datname, " ++
        "'CONNECT') THEN pg_catalog.pg_size_pretty(pg_catalog.pg_database_size(d.datname)) " ++
        "ELSE 'No Access' END as \"Size\", t.spcname as \"Tablespace\", " ++
        "pg_catalog.shobj_description(d.oid, 'pg_database') as \"Description\" FROM " ++
        "pg_catalog.pg_database d JOIN pg_catalog.pg_tablespace t on d.dattablespace = t.oid " ++
        "ORDER BY 1"),
    extensionTable bufferCache "Databases in cache"
      ("SELECT CASE WHEN datname IS NULL THEN '<vide>' ELSE datname END AS datname, " ++
        "pg_size_pretty(count(*)*8192) FROM pg_buffercache bc LEFT JOIN pg_database d ON " ++
        "d.oid=bc.reldatabase GROUP BY 1 ORDER BY count(*) DESC"),
    table "Tablespaces"
      ("SELECT spcname AS \"Name\", pg_catalog.pg_get_userbyid(spcowner) AS \"Owner\", " ++
        "pg_catalog.pg_tablespace_location(oid) AS \"Location\", " ++
        "pg_size_pretty(pg_tablespace_size(oid)) AS \"Size\", " ++
        "pg_catalog.array_to_string(spcacl, E'\\n') AS \"Access privileges\", spcoptions AS " ++
        "\"Options\", pg_catalog.shobj_description(oid, 'pg_tablespace') AS \"Description\" " ++
        "FROM pg_catalog.pg_tablespace ORDER BY 1"),
    variants "Roles" [
      (⟨9, 5⟩,
        "SELECT r.rolname, r.rolsuper, r.rolinherit, r.rolcreaterole, r.rolcreatedb, " ++
          "r.rolcanlogin, r.rolconnlimit, r.rolvaliduntil, ARRAY(SELECT b.rolname FROM " ++
          "pg_catalog.pg_auth_members m JOIN pg_catalog.pg_roles b ON (m.roleid = b.oid) " ++
          "WHERE m.member = r.oid) as memberof, r.rolreplication, r.rolbypassrls FROM " ++
          "pg_catalog.pg_roles r WHERE r.rolname !~ '^pg_' ORDER BY 1"),
      (.always,
        "SELECT r.rolname, r.rolsuper, r.rolinherit, r.rolcreaterole, r.rolcreatedb, " ++
          "r.rolcanlogin, r.rolconnlimit, r.rolvaliduntil, ARRAY(SELECT b.rolname FROM " ++
          "pg_catalog.pg_auth_members m JOIN pg_catalog.pg_roles b ON (m.roleid = b.oid) " ++
          "WHERE m.member = r.oid) as memberof, r.rolreplication FROM pg_catalog.pg_roles r " ++
          "WHERE r.rolname !~ '^pg_' ORDER BY 1")],
    table "User passwords"
      ("SELECT usename, valuntil, CASE WHEN passwd IS NULL THEN '<NULL>' else passwd END AS " ++
        "passwd FROM pg_catalog.pg_shadow ORDER BY 1"),
    table "Databases and users specific configuration"
      ("select datname, rolname, setconfig from pg_db_role_setting drs left join pg_database d " ++
        "on d.oid=drs.setdatabase left join pg_roles r on r.oid=drs.setrole"),
    .heading localObjectsTitle,
    table "Schemas"
      ("SELECT n.nspname AS \"Name\", pg_catalog.pg_get_userbyid(n.nspowner) AS \"Owner\" FROM " ++
        "pg_catalog.pg_namespace n WHERE n.nspname !~ '^pg_' AND n.nspname <> " ++
        "'information_schema' ORDER BY 1"),
    table "Relations per kinds and schemas"
      ("select nspname, rolname, count(*) filter (where relkind='r') as tables, count(*) filter " ++
        "(where relkind='t') as toasts, count(*) filter (where relkind='i') as index, " ++
        "count(*) filter (where relkind='S') as sequences from pg_namespace n join pg_roles r " ++
        "on r.oid=n.nspowner left join pg_class c on n.oid=c.relnamespace group by nspname, " ++
        "rolname order by 1, 2"),
    variants "Routines per schema" [
      (⟨11, 0⟩,
        "select nspname, rolname, count(*) filter (where prokind='f') as functions, count(*) " ++
          "filter (where prokind='p') as procedures from pg_namespace n join pg_roles r on " ++
          "r.oid=n.nspowner left join pg_proc p on n.oid=p.pronamespace group by nspname, " ++
          "rolname order by 1, 2"),
      (.always,
        "select nspname, rolname, count(*) filter (where p.oid is not null) as functions from " ++
          "pg_namespace n join pg_roles r on r.oid=n.nspowner left join pg_proc p on " ++
          "n.oid=p.pronamespace group by nspname, rolname order by 1, 2")],
    table "HEAP and TOAST sizes per schema"
      ("select nspname, relname, pg_relation_size(c.oid) as heap_size, " ++
        "pg_relation_size(reltoastrelid) as toast_size from pg_namespace n join pg_class c on " ++
        "n.oid=c.relnamespace where pg_relation_size(reltoastrelid)>0 order by nspname, " ++
        "relname"),
    table "Extensions"
      ("SELECT e.extname AS \"Name\", e.extversion AS \"Version\", n.nspname AS \"Schema\", " ++
        "c.description AS \"Description\" FROM pg_catalog.pg_extension e LEFT JOIN " ++
        "pg_catalog.pg_namespace n ON n.oid = e.extnamespace LEFT JOIN " ++
        "pg_catalog.pg_description c ON c.objoid = e.oid AND c.classoid = " ++
        "'pg_catalog.pg_extension'::pg_catalog.regclass ORDER BY 1"),
    table "Number and size per relations kinds"
      ("SELECT nspname, relkind, count(*), pg_size_pretty(sum(pg_table_size(c.oid))) FROM " ++
        "pg_class c JOIN pg_namespace n ON n.oid=c.relnamespace GROUP BY 1,2 ORDER BY 1,2"),
    table "Dependencies"
      ("with etypes as ( select classid::regclass, objid, deptype, e.extname from pg_depend " ++
        "join pg_extension e on refclassid = 'pg_extension'::regclass and refobjid = e.oid " ++
        "where classid = 'pg_type'::regclass ) select etypes.extname, etypes.objid::regtype as " ++
        "type, n.nspname as schema, c.relname as table, attname as column from pg_depend join " ++
        "etypes on etypes.classid = pg_depend.refclassid and etypes.objid = " ++
        "pg_depend.refobjid join pg_class c on c.oid = pg_depend.objid join pg_namespace n on " ++
        "n.oid = c.relnamespace join pg_attribute attr on attr.attrelid = pg_depend.objid and " ++
        "attr.attnum = pg_depend.objsubid where pg_depend.classid = 'pg_class'::regclass"),
    extensionTable bufferCache "Relation kinds in cache"
      ("select relkind, pg_size_pretty(count(*)*8192) from pg_buffercache bc left join pg_class " ++
        "c on c.relfilenode=bc.relfilenode group by 1 order by count(*) desc"),
    table "Access Methods"
      ("select nspname, amname, count(*), pg_size_pretty(sum(pg_table_size(c.oid))) from " ++
        "pg_class c join pg_am a on a.oid=c.relam join pg_namespace n on n.oid=c.relnamespace " ++
        "group by 1, 2 order by 1,2"),
    table "Index by types"
      ("SELECT nspname, count(*) FILTER (WHERE not indisunique AND not indisprimary) as " ++
        "standard, count(*) FILTER (WHERE indisunique AND not indisprimary) as unique, count(*) " ++
        "FILTER (WHERE indisprimary) as primary, count(*) FILTER (WHERE indisexclusion) as " ++
        "exclusion, count(*) FILTER (WHERE indisclustered) as clustered, count(*) FILTER " ++
        "(WHERE indisvalid) as valid FROM pg_index i JOIN pg_class c ON c.oid=i.indexrelid " ++
        "JOIN pg_namespace n ON n.oid=c.relnamespace GROUP BY 1"),
    table "Percentage usage of indexes"
      ("SELECT relname, CASE idx_scan WHEN 0 THEN 'Insufficient data' ELSE (100 * idx_scan / " ++
        "(seq_scan + idx_scan))::text END percent_of_times_index_used, n_live_tup " ++
        "rows_in_table FROM pg_stat_user_tables ORDER BY n_live_tup DESC"),
    table "Unused indexes"
      ("select schemaname, count(*) from pg_stat_user_indexes s join pg_index i using " ++
        "(indexrelid) where idx_scan=0 and (not indisunique AND not indisprimary) group by 1"),
    table "Redundant indexes"
      ("SELECT pg_size_pretty(SUM(pg_relation_size(idx))::BIGINT) AS SIZE, " ++
        "string_agg(idx::text, ', ') AS indexes FROM ( SELECT indexrelid::regclass AS idx, " ++
        "(indrelid::text ||E'\\n'|| indclass::text ||E'\\n'|| indkey::text ||E'\\n'|| " ++
        "COALESCE(indexprs::text,'')||E'\\n' || COALESCE(indpred::text,'')) AS KEY FROM " ++
        "pg_index) sub GROUP BY KEY HAVING COUNT(*)>1 ORDER BY SUM(pg_relation_size(idx)) " ++
        "DESC"),
    table "Orphaned files"
      "SELECT * FROM orphaned_files ORDER BY file_size DESC",
    table "User routines"
      "select count(*) from pg_proc where pronamespace=2200 or pronamespace>16383",
    variants "Routines per schema and kind" [
      (⟨11, 0⟩,
        "select n.nspname, l.lanname, p.prokind, count(*) from pg_proc p join pg_namespace n on " ++
          "n.oid=p.pronamespace join pg_language l on l.oid=p.prolang where pronamespace=2200 " ++
          "or pronamespace>16383 group by 1, 2, 3 order by 1, 2, 3"),
      (.always,
        "select n.nspname, l.lanname, count(*) from pg_proc p join pg_namespace n on " ++
          "n.oid=p.pronamespace join pg_language l on l.oid=p.prolang where pronamespace=2200 " ++
          "or pronamespace>16383 group by 1, 2 order by 1, 2")],
    table "Large Objects"
      "select count(*) from pg_largeobject",
    table "Large Objects Size"
      "select reltuples, relpages from pg_class where relname='pg_largeobject'",
    table "Relation Options"
      ("select nspname, relkind, relname, reloptions from pg_class c join pg_namespace n on " ++
        "n.oid=c.relnamespace where reloptions is not null order by 1, 3, 2"),
    extensionTable visibility "Tables needing autoVACUUMs"
      ("SELECT st.schemaname || '.' || st.relname tablename, st.n_dead_tup dead_tup, " ++
        "round((get_value('autovacuum_vacuum_threshold', c.reloptions, c.relkind) + " ++
        "get_value('autovacuum_vacuum_scale_factor', c.reloptions, c.relkind) * " ++
        "c.reltuples)::numeric,2) max_dead_tup, st.last_autovacuum, count(*) FILTER (WHERE " ++
        "NOT all_visible) AS tobevacuumed_blocks, count(*) AS total_blocks FROM " ++
        "pg_stat_all_tables st, pg_class c, LATERAL pg_visibility_map(st.relid) WHERE c.oid = " ++
        "st.relid AND c.relkind IN ('r','m','t') AND st.n_dead_tup>0 GROUP BY 1,2,3,4"),
    table "Tables needing autoANALYZEs"
      ("SELECT st.schemaname || '.' || st.relname tablename, st.n_mod_since_analyze mod_tup, " ++
        "get_value('autovacuum_analyze_threshold', c.reloptions, c.relkind) + " ++
        "get_value('autovacuum_analyze_scale_factor', c.reloptions, c.relkind) * c.reltuples " ++
        "max_mod_tup, st.last_autoanalyze FROM pg_stat_all_tables st, pg_class c WHERE c.oid " ++
        "= st.relid AND c.relkind IN ('r','m') AND st.n_mod_since_analyze>0"),
    table "Min age"
      ("SELECT label, age FROM ( select 'Process #'||pid AS label, age(backend_xid) AS age from " ++
        "pg_stat_activity UNION select 'Process #'||pid, age(backend_xmin) from " ++
        "pg_stat_activity UNION select 'Prepared transaction '||gid, age(transaction) from " ++
        "pg_prepared_xacts UNION select 'Replication slot '||slot_name, age(xmin) from " ++
        "pg_replication_slots UNION select 'Replication slot '||slot_name, age(catalog_xmin) " ++
        "from pg_replication_slots) tmp UNION select 'Secondary '||client_addr, " ++
        "age(backend_xmin) FROM pg_stat_replication WHERE backend_xmin IS NOT NULL ORDER BY " ++
        "age DESC"),
    table "Tables to be frozen"
      ("select count(*) from pg_class where relkind='r' and " ++
        "age(relfrozenxid)>current_setting('autovacuum_freeze_max_age')::integer"),
    table "Top 20 most fragmented tables (over 1MB)"
      "SELECT * FROM bloat_table WHERE bloat_size>1e6 ORDER BY bloat_size DESC LIMIT 20",
    table "Top 20 most fragmented indexes (over 1MB)"
      "SELECT * FROM bloat_index WHERE bloat_size>1e6 ORDER BY bloat_size DESC LIMIT 20",
    table "Replication slots"
      "select * from pg_replication_slots",
    tableSince ⟨10, 0⟩ "Publications"
      "select * from pg_publication",
    tableSince ⟨10, 0⟩ "Subscriptions"
      "select * from pg_subscription"]

/-- The sections a server of this release gets, without those that are excluded. -/
def plan (release : Release) (excluded : List Value) (sections : List Section) : List Section :=
  sections.filter fun s =>
    s.applies release && !(excluded.any fun v => v.same (.text s.title))

end PgVitals.Catalog.Report
