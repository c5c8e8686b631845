import ReadLater.Json.Value
import ReadLater.Text.Quote

/-!
# Problems reported to clients

Every failure that a client can act on is a `Problem`: a cause with a code, a category, a message
in the service's language and an action to take. A `Failure` is what an operation ends with: a
problem, any other error text, and the contexts that callers wrapped around either, outermost
first. Two views of a failure matter:

* `Failure.text`: the full chain of contexts and the cause, as logs and the command line print it;
* `Failure.problem?`: the problem inside the chain, which decides the client's answer.
-/

namespace ReadLater

/-- A cause that a client is told about, with what the answer carries. -/
inductive Problem where
  /-- A request that breaks an input rule. -/
  | validation (reason : String)
  /-- A triage state that is not one of the three. -/
  | invalidState (state : String)
  | itemNotFound (userItemId : String)
  | sourceNotFound (sourceId : String)
  | unknownMutation (name : String)
  | invalidMutationArgs (name reason : String)
  /-- The client is registered in another client group. -/
  | clientGroupMismatch (clientId : String)
  /-- A mutation id was skipped; the client has to pull again. -/
  | resyncRequired (clientId : String) (appliedUpTo got : Int)
  | schemaAhead (storeVersion knownVersion : Nat)
  | migrationFailed (name cause : String)
  | migrationTampered (name : String)
  | refreshUnsupported (provider : String)
  /-- A fetch failed; `status` is the HTTP status of a response other than 200, `retryable`
  is present when the answer says whether to try again. -/
  | fetchFailed (reason : String) (status : Option Int) (retryable : Option Bool)
  | unauthorized (reason : String)
  | rateLimited
  | internalError
  /-- The server is shutting down its workers. -/
  | shuttingDown
  deriving Repr, BEq, Inhabited

namespace Problem

/-- The machine-readable code. -/
def code : Problem → String
  | .validation _ => "VALIDATION_ERROR"
  | .invalidState _ => "INVALID_STATE"
  | .itemNotFound _ => "ITEM_NOT_FOUND"
  | .sourceNotFound _ => "SOURCE_NOT_FOUND"
  | .unknownMutation _ => "UNKNOWN_MUTATION"
  | .invalidMutationArgs _ _ => "INVALID_MUTATION_ARGS"
  | .clientGroupMismatch _ => "CLIENT_GROUP_MISMATCH"
  | .resyncRequired _ _ _ => "RESYNC_REQUIRED"
  | .schemaAhead _ _ => "SCHEMA_AHEAD"
  | .migrationFailed _ _ => "MIGRATION_FAILED"
  | .migrationTampered _ => "MIGRATION_TAMPERED"
  | .refreshUnsupported _ => "REFRESH_UNSUPPORTED"
  | .fetchFailed _ _ _ => "FETCH_FAILED"
  | .unauthorized _ => "UNAUTHORIZED"
  | .rateLimited => "RATE_LIMITED"
  | .internalError => "INTERNAL_ERROR"
  | .shuttingDown => "INTERNAL_ERROR"

/-- Where the cause lies: `validation`, `sync`, `store`, `source`, `auth` or `system`. -/
def category : Problem → String
  | .validation _ | .invalidState _ | .itemNotFound _ | .unknownMutation _
  | .invalidMutationArgs _ _ | .clientGroupMismatch _ => "validation"
  | .resyncRequired _ _ _ => "sync"
  | .schemaAhead _ _ | .migrationFailed _ _ | .migrationTampered _ => "store"
  | .sourceNotFound _ | .refreshUnsupported _ | .fetchFailed _ _ _ => "source"
  | .unauthorized _ => "auth"
  | .rateLimited | .internalError | .shuttingDown => "system"

/-- The message shown to the user. -/
def message : Problem → String
  | .validation r => s!"入力が不正です: {r}"
  | .invalidState s => "無効な状態です: " ++ Text.quote s
  | .itemNotFound i => s!"指定されたアイテムが見つかりません: {i}"
  | .sourceNotFound i => s!"指定されたソースが見つかりません: {i}"
  | .unknownMutation n => s!"未知のミューテーションです: {n}"
  | .invalidMutationArgs n r => s!"ミューテーション {n} の引数が不正です: {r}"
  | .clientGroupMismatch c => s!"クライアント {c} は別のクライアントグループに登録されています"
  | .resyncRequired c applied got =>
    s!"ミューテーションIDに欠番があります: client={c} expected={applied + 1} got={got}"
  | .schemaAhead s k => s!"ストアのスキーマバージョン {s} はこのバイナリの既知バージョン {k} より新しいです"
  | .migrationFailed n c => s!"マイグレーション {n} の適用に失敗しました: {c}"
  | .migrationTampered n => s!"適用済みマイグレーション {n} の内容が変更されています"
  | .refreshUnsupported p => s!"プロバイダ {p} はサーバー側での取得に対応していません"
  | .fetchFailed r _ _ => s!"フィードの取得に失敗しました: {r}"
  | .unauthorized r => s!"認証に失敗しました: {r}"
  | .rateLimited => "リクエストが多すぎます。"
  | .internalError => "内部エラーが発生しました。"
  | .shuttingDown => "サーバーが停止処理中です。"

/-- What the client should do about it. -/
def action : Problem → String
  | .validation _ => "リクエスト内容を確認してください。"
  | .invalidState _ => "状態には INBOX、BOOKMARKED、ARCHIVED のいずれかを指定してください。"
  | .itemNotFound _ => "pullで最新の状態を取得してから再度操作してください。"
  | .sourceNotFound _ => "ソースIDを確認してください。"
  | .unknownMutation _ => "このミューテーションを破棄してください。"
  | .invalidMutationArgs _ _ => "引数を修正するか、このミューテーションを破棄してください。"
  | .clientGroupMismatch _ => "クライアントIDを再生成してください。"
  | .resyncRequired _ _ _ => "保留中のミューテーションを破棄し、pullで状態を再構築してください。"
  | .schemaAhead _ _ => "サーバーを最新バージョンに更新してください。"
  | .migrationFailed _ _ => "しばらく待ってから再度お試しください。"
  | .migrationTampered _ =>
    "リリース済みマイグレーションは編集せず、新しいマイグレーションを追加してください。"
  | .refreshUnsupported _ => "メタデータ解決サービス経由でingestしてください。"
  | .fetchFailed _ _ _ => "URLが正しいか確認し、しばらく待ってから再度お試しください。"
  | .unauthorized _ => "トークンを再取得してください。"
  | .rateLimited => "Retry-Afterの秒数だけ待ってから再度お試しください。"
  | .internalError => "時間をおいて再度同期してください。"
  | .shuttingDown => "しばらく待ってから再度お試しください。"

/-- Extra values for the client, as object members sorted by key (`none` when there are none). -/
def details : Problem → Option (List (String × Json))
  | .resyncRequired _ applied _ =>
    some [("appliedUpTo", .int applied), ("expectedMutationId", .int (applied + 1))]
  | .fetchFailed _ status retryable =>
    let s := (status.map fun n => [("status", Json.int n)]).getD []
    let r := (retryable.map fun b => [("retryable", Json.bool b)]).getD []
    match r ++ s with
    | [] => none
    | ms => some (ms.mergeSort (fun a b => a.1 ≤ b.1))
  | _ => none

/-- Whether the cause lies in the request's input, so a batch goes on past it. -/
def isValidation (p : Problem) : Bool := p.category == "validation"

/-- The HTTP status that answers the problem. -/
def status : Problem → Nat
  | .validation _ | .invalidState _ | .unknownMutation _ | .invalidMutationArgs _ _ => 400
  | .itemNotFound _ | .sourceNotFound _ => 404
  | .clientGroupMismatch _ | .resyncRequired _ _ _ => 409
  | .refreshUnsupported _ => 422
  | .fetchFailed _ _ _ => 502
  | .schemaAhead _ _ | .migrationFailed _ _ | .migrationTampered _ => 503
  | .unauthorized _ => 401
  | .rateLimited => 429
  | .internalError => 500
  | .shuttingDown => 503

/-- The text of the problem as an error value: code in brackets, then the message. -/
def text (p : Problem) : String := s!"[{p.code}] {p.message}"

end Problem

/-- How an operation failed: a problem or any other error, inside the contexts that callers
wrapped around it. -/
inductive Failure where
  | problem (p : Problem)
  /-- An error that is only text, such as a storage error. -/
  | other (text : String)
  /-- The work of the registry of workers after it was closed. -/
  | registryClosed
  /-- `inner`, reported by a caller as `context: inner`. -/
  | wrapped (context : String) (inner : Failure)
  deriving Repr, BEq, Inhabited

namespace Failure

/-- The full error text: every context, then the cause. -/
def text : Failure → String
  | .problem p => p.text
  | .other t => t
  | .registryClosed => "actor registry is closed"
  | .wrapped c inner => c ++ ": " ++ inner.text

/-- The outermost problem in the chain, if any. -/
def problem? : Failure → Option Problem
  | .problem p => some p
  | .other _ => none
  | .registryClosed => none
  | .wrapped _ inner => inner.problem?

/-- Whether the registry's closing is the cause. -/
def isRegistryClosed : Failure → Bool
  | .registryClosed => true
  | .wrapped _ inner => inner.isRegistryClosed
  | _ => false

/-- Whether the cause is a problem with the request's input. -/
def isValidation (f : Failure) : Bool :=
  match f.problem? with
  | some p => p.isValidation
  | none => false

/-- The same failure under one more context. -/
def wrap (context : String) (f : Failure) : Failure := .wrapped context f

end Failure

/-- Results of the service's operations. -/
abbrev Outcome (α : Type) := Except Failure α

/-- Fails with a problem. -/
def Outcome.fail {α : Type} (p : Problem) : Outcome α := .error (.problem p)

/-- Puts a context around the failure of an operation. -/
def Outcome.context {α : Type} (context : String) (r : Outcome α) : Outcome α :=
  match r with
  | .ok a => .ok a
  | .error f => .error (f.wrap context)

end ReadLater
