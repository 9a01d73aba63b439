import TiberiusBridge.Operation
import TiberiusBridge.Params

/-!
# Prepared statements

A session is an `Arc<()>`, compared by address. The address stays taken for as
long as any clone of the `Arc` lives, and may be handed out again afterwards.
-/
namespace TiberiusBridge

open Lib (Compute)

/-- The address of an `Arc<()>`. -/
abbrev Token := Nat

structure PreparedStatement where
  handle : Int32
  sql : String
  session : Token
  deriving DecidableEq

variable [MssqlTds]

namespace PreparedStatement

def validateSession (stmt : PreparedStatement) (session : Token) : Result Unit :=
  if stmt.session = session then .ok () else .error .invalidPreparedStatement

def handleParameter (stmt : PreparedStatement) : List RpcParameter :=
  [{ name := none, status := .none, value := .int (some stmt.handle) }]

/-- The request that prepares `sql` under a parameter declaration. -/
def prepareCall (sql declaration : String) : Call :=
  .executeStoredProcedure "sp_prepare"
    (some [
      { name := none, status := .byRefValue, value := .int none },
      { name := none, status := .none
        value := .nVarcharMax (some (MssqlTds.fromUtf8String declaration)) },
      { name := none, status := .none
        value := .nVarcharMax (some (MssqlTds.fromUtf8String sql)) }])
    none

/-- The statement read from the output values of `sp_prepare`. -/
def fromReturnValues (values : List ColumnValues) (sql : String) (session : Token) :
    Result PreparedStatement :=
  match values with
  | [.int handle] => .ok { handle, sql, session }
  | [_] => .error (.tds (.protocolError "sp_prepare did not return an integer handle"))
  | _ => .error (.tds (.protocolError "sp_prepare did not return exactly one output parameter"))

def executeCall (stmt : PreparedStatement) (params : Option (List RpcParameter)) : Call :=
  .executeStoredProcedure "sp_execute" (some stmt.handleParameter) params

def unprepareCall (stmt : PreparedStatement) : Call :=
  .executeStoredProcedure "sp_unprepare" (some stmt.handleParameter) none

theorem validateSession_ok_iff {stmt : PreparedStatement} {session : Token} :
    stmt.validateSession session = .ok () ↔ stmt.session = session := by
  unfold validateSession
  split <;> simp_all

theorem validateSession_other {stmt : PreparedStatement} {session : Token}
    (h : stmt.session ≠ session) :
    stmt.validateSession session = .error .invalidPreparedStatement := if_neg h

end PreparedStatement

end TiberiusBridge
