import BoundSql.Operation

namespace BoundSql

/-- A mistake of the programmer. It is no error of a statement or a connection: what was asked for
has no meaning, and nothing that depends on it goes on. -/
inductive Misuse where
  | incomparable (operation : Operation) (argument : Arg)
  | notJoined (left right : String)
  /-- A length of time was put together that is longer than any there is. -/
  | endless

def Misuse.message : Misuse → String
  | incomparable operation argument =>
    operation.family.name ++ " operation " ++ operation.describe ++ " cannot compare " ++
      argument.describe
  | notJoined left right => "no join registered between " ++ left ++ " and " ++ right
  | endless => "overflow in Duration::new"

end BoundSql
