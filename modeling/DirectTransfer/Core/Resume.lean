import DirectTransfer.Core.Commit

/-! Partial files and their metadata, kept in one directory a transfer. -/

set_option autoImplicit false

namespace DirectTransfer

open Library

/-! ## Names -/

def partialName (fileId : PyStr) : PyStr := fileId ++ py ".part"

def metadataName : PyStr := py "metadata.json"

/-- `metadata.json` with the suffix under which it is written first. -/
def metadataTemporary : PyStr := py "metadata.tmp"

/-- `.tmp-commit-{uuid4().hex}` -/
def commitTemporary (hex : PyStr) : PyStr := py ".tmp-commit-" ++ hex

end DirectTransfer
