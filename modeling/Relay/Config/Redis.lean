import Relay.Config.Env
/-!
# The Redis connection

Where the cache and broker server is: a URL and, optionally, a database number. The
connection URL appends `/<database>` to the URL with its trailing slashes trimmed, unless the
part after `://` already holds a path. From the environment the URL is `REDIS_URL`, else
`REDIS_HOST`; `REDIS_DATABASE`, trimmed, is a number below 256 or blank for none.
-/
namespace Relay.Config

structure Redis where
  url : String
  database : Option Nat := none
  deriving DecidableEq, Repr

namespace Redis

def afterScheme (s : List Char) : Option (List Char) :=
  match s with
  | ':' :: '/' :: '/' :: rest => some rest
  | _ :: rest => afterScheme rest
  | [] => none

def trimmed (url : String) : List Char := (url.toList.reverse.dropWhile (· == '/')).reverse

def namesDatabase (url : String) : Bool :=
  match afterScheme (trimmed url) with
  | some rest => rest.contains '/'
  | none => false

def connectionUrl (r : Redis) : String :=
  match r.database with
  | none => r.url
  | some db =>
    if namesDatabase r.url then r.url else String.ofList (trimmed r.url) ++ "/" ++ toString db

@[simp] theorem connectionUrl_none (url : String) : connectionUrl ⟨url, none⟩ = url := rfl

@[simp] theorem connectionUrl_some (url : String) (db : Nat) :
    connectionUrl ⟨url, some db⟩ =
      if namesDatabase url then url else String.ofList (trimmed url) ++ "/" ++ toString db := rfl

def ofEnv (e : Env) : Except Problem Redis := do
  let url ← match e.get? "REDIS_URL" with
    | some u => pure u
    | none =>
      match e.get? "REDIS_HOST" with
      | some h => pure h
      | none => throw (.missing "REDIS_URL or REDIS_HOST")
  let raw := Text.trim (e.orDefault "REDIS_DATABASE" "")
  if raw = "" then pure ⟨url, none⟩
  else
    match (Text.IntFormat.unsigned 8).parse raw with
    | .ok n => pure ⟨url, some n.toNat⟩
    | .error p => throw (.unreadable "REDIS_DATABASE" p.message)

end Redis

end Relay.Config
