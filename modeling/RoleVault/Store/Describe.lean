import RoleVault.Secret
import RoleVault.Store.Users

/-!
Contract: how users look in a log.

Owns: the text of a user record and of a user to be added, in both of which a mark stands in the
place of the password.

Does not own: what is logged.
-/

namespace RoleVault.Store

open RoleVault.Text RoleVault.Time

namespace Describe

def redacted : String := Quoted.quote Secret.marker

def record (name : String) (fields : List (String × String)) : String :=
  let written := fields.map fun (field, value) => field ++ ": " ++ value
  name ++ " \x7b " ++ ", ".intercalate written ++ " \x7d"

def wrapped (name value : String) : String :=
  name ++ "(" ++ value ++ ")"

def optionalText : Option String → String
  | none => "None"
  | some text => wrapped "Some" (Quoted.quote text)

def items (written : List String) : String :=
  "[" ++ ", ".intercalate written ++ "]"

def userId (id : UserId) : String := wrapped "UserId" id.text

def groupId (id : GroupId) : String := wrapped "GroupId" (toString id)

def roleId (id : RoleId) : String := wrapped "RoleId" (toString id)

def level : Role → String
  | .user => "User"
  | .admin => "Admin"
  | .operator => "OperatorService"

def grant (grant : Access.Grant) : String :=
  record "RoleGrant" [("id", roleId grant.id), ("kind", level grant.role)]

end Describe

open Describe

/-- The text of a user record, without its password. -/
def UserRecord.describe (user : UserRecord) : String :=
  record "UserRecord" [
    ("id", userId user.id),
    ("name", Quoted.quote user.name),
    ("password", redacted),
    ("display_name", Quoted.quote user.displayName),
    ("email", optionalText user.email),
    ("phone", optionalText user.phone),
    ("group_id", groupId user.group),
    ("roles", items (user.grants.map grant)),
    ("created_at", Rfc3339.renderZulu user.createdAt),
    ("updated_at", Rfc3339.renderZulu user.updatedAt)]

/-- The text of a user to be added, without its password. -/
def NewUser.describe (user : NewUser) : String :=
  record "NewUser" [
    ("id", userId user.id),
    ("name", Quoted.quote user.name),
    ("password", redacted),
    ("display_name", Quoted.quote user.displayName),
    ("email", optionalText user.email),
    ("phone", optionalText user.phone),
    ("group_id", groupId user.group),
    ("role_ids", items (user.roles.map roleId))]

def shows (text stored : String) : Bool :=
  (List.range (text.toList.length + 1)).any fun start =>
    stored.toList.isPrefixOf (text.toList.drop start)

end RoleVault.Store
