import RiskScreen.Json.Decode
import RiskScreen.Scoring.Settings

/-!
# Settings of a remote scorer in JSON

Only the address has to be there. The check of certificates and the time limit have
defaults, which null does not stand for.
-/

namespace RiskScreen.ScorerSettings

open Json

/-- The fields of the settings. -/
def fields : List Field :=
  [field "url" readText,
    field "username" (readOption readText),
    field "password" (readOption readText),
    field "proxy_host" (readOption readText),
    field "proxy_port" (readOption (readNatural Text.maxWord16)),
    fieldWithDefault "strict_ssl" readBool,
    fieldWithDefault "timeout_ms" (readNatural Text.maxWord64)]

/-- The settings with the fields that were read. -/
def ofRecord (record : Record) : Except ReadFault ScorerSettings := do
  let url ← record.need "url" readText
  let username ← record.opt "username" readText
  let password ← record.opt "password" readText
  let proxyHost ← record.opt "proxy_host" readText
  let proxyPort ← record.opt "proxy_port" (readNatural Text.maxWord16)
  let strictSsl ← record.getD "strict_ssl" readBool defaultStrictSsl
  let timeout ← record.getD "timeout_ms" (readNatural Text.maxWord64) defaultTimeout
  return { url, username, password, proxyHost, proxyPort, strictSsl, timeout }

/-- Reads the settings. -/
def read : Reader ScorerSettings := fun draft =>
  readRecord fields draft >>= ofRecord

end RiskScreen.ScorerSettings
