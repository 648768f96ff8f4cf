/-!
# The database schema

The statements that create the tables of the database, each in a text of its own, and the script
that includes them.

* `Schema.script` — the script, line by line;
* `Schema.included?` — the text that an inclusion stands for;
* `Schema.text` — the script with its inclusions written out.
-/

namespace Tagging.Schema

/-- The table of registered queries. -/
def namedQueries : String :=
"CREATE TABLE IF NOT EXISTS named_queries (
\tquery_id INTEGER PRIMARY KEY,
\tdisplay_name TEXT NOT NULL,
\tmax_hits INTEGER NOT NULL,
\tpriority INTEGER NOT NULL
);
"

/-- The table of display entries. -/
def displayIndex : String :=
"CREATE TABLE IF NOT EXISTS display_index (
\tfile_id TEXT PRIMARY KEY,
\tdisplay_name TEXT NOT NULL,
\trelative_path TEXT NOT NULL,
\tdoc_address INTEGER NOT NULL
);
"

/-- The table of weights. -/
def scoreRows : String :=
"CREATE TABLE IF NOT EXISTS score_rows (
\tfile_id TEXT NOT NULL,
\tquery_id INTEGER NOT NULL REFERENCES named_queries (query_id),
\tweight REAL NOT NULL CHECK (weight > 0),
\tPRIMARY KEY (file_id, query_id)
) WITHOUT ROWID;
"

/-- The table of totals and its index. -/
def aggregateScores : String :=
"CREATE TABLE IF NOT EXISTS aggregate_scores (
\tfile_id TEXT PRIMARY KEY,
\ttotal REAL NOT NULL
);

CREATE INDEX IF NOT EXISTS aggregate_scores_rank_idx ON aggregate_scores (total DESC, file_id ASC);
"

/-- A line of the script. -/
inductive Line where
  /-- Stands for the text of that name. -/
  | includes (name : String)
  /-- Stands for itself. -/
  | plain (text : String)

/-- The lines of the script. -/
def script : List Line :=
  [.includes "tables/001_named_queries.sql", .includes "tables/002_display_index.sql",
    .includes "tables/003_score_rows.sql", .includes "tables/004_aggregate_scores.sql"]

/-- The text of a name. -/
def included? (name : String) : Option String :=
  [("tables/001_named_queries.sql", namedQueries), ("tables/002_display_index.sql", displayIndex),
    ("tables/003_score_rows.sql", scoreRows),
    ("tables/004_aggregate_scores.sql", aggregateScores)].lookup name

/-- What a line stands for; an inclusion of an unknown name stays as it is written. -/
def Line.expand : Line → String
  | .includes name => (included? name).getD ("\\ir " ++ name)
  | .plain text => text

/-- The script with its inclusions written out, a line end after each line. -/
def text : String := String.join (script.map (fun line => line.expand ++ "\n"))

end Tagging.Schema
