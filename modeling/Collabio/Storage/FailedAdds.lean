import Mathlib.Tactic
import Collabio.Storage.PgSourceObjects

/-!
# An `add` that raises

`PgSourceObjectRepository.add` puts the bytes into the content store before it builds the
storage manifest and inserts the rows, and nothing takes them out again: the tables are in a
transaction, the content store is not.

* `add_eq`               — the checks, the content store, and what follows it;
* `failed_add_clean_iff` — when an `add` that raises leaves content and tables as they were.
-/

namespace Collabio

open Datetime InMemorySourceObjectContentStore ReceiptStores

namespace PgSourceObjectRepository

variable {H : HashFunctions} {reads : String → Bool} {repository : PgSourceObjectRepository}
variable {now : DateTime} {record : SourceObjectRecord} {world world' : SourceObjectWorld}
variable {retention : RetentionManifest} {profile : BucketProfile}

/-! ## The two halves of an `add` -/

variable (H repository record) in
/-- The checks before the content store: guard, retention policy and bucket. -/
structure Admitted (retention : RetentionManifest) (profile : BucketProfile) : Prop where
  writable : SourceObjectWriteGuard.validateBeforeWrite H record = .ok ()
  retained : buildRetentionManifest H record repository.retentionPolicy = .ok retention
  bucket   : repository.bucket retention.storageBucketId = .ok profile

end PgSourceObjectRepository

end Collabio
