import BoundSql.Connection
import BoundSql.Table.Query
import BoundSql.Table.Results

namespace BoundSql.Query

variable {σ α : Type} (x : Executor σ)

def result (q : Query) (scan : Row → Except Error α) (w : σ) : Except Error α × σ :=
  match x.query q.build.sql q.build.args w with
  | (.error e, w) => (.error e, w)
  | (.ok rows, w) =>
    let w := x.await rows.arrival w
    match rows.exactlyOne with
    | .error e => (.error e, w)
    | .ok row => (scan row, w)

def results (q : Query) (scan : Row → Except Error α) (w : σ) : Except Error (Results α) × σ :=
  match x.query q.build.sql q.build.args w with
  | (.error e, w) => (.error e, w)
  | (.ok rows, w) => (.ok (.ofRows scan rows), x.await rows.arrival w)

/-- The selected columns of a row as texts, all of its columns if none are named. -/
def scanTexts (q : Query) (row : Row) : Except Error (List String) :=
  row.texts (q.select.getD (row.columns.map Prod.fst))

end BoundSql.Query
