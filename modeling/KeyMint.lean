import KeyMint.Cbor
import KeyMint.Wire
import KeyMint.Crypto
import KeyMint.Serializer
import KeyMint.Keyblob.Codec
import KeyMint.Keyblob.Sdd
import KeyMint.Keyblob.Seal
import KeyMint.Ta.State
import KeyMint.Ta.UseCount
import KeyMint.Ta.Messages
import KeyMint.Hal
import KeyMint.Ta.AuthToken
import KeyMint.Ta.Env
import KeyMint.Ta.Handlers
import KeyMint.Ta.Rkp
import KeyMint.Ta.Dispatch
import KeyMint.Ta.Frame
import KeyMint.Ta.Boot
import KeyMint.Ta.Deletion
import KeyMint.Ta.Upgrade
import KeyMint.Ta.RootOfTrust
import KeyMint.Ta.Failure
import KeyMint.Ta.Authentication
import KeyMint.Ta.Lifecycle
import KeyMint.Ta.Process
