import FunaiSdk.Hex
import FunaiSdk.Varuint
import FunaiSdk.Message
import FunaiSdk.Wire
import FunaiSdk.Keys
import FunaiSdk.Run
import FunaiSdk.Signer
import FunaiSdk.KeyOrder
import FunaiSdk.Builders
import FunaiSdk.MultiSig
import FunaiSdk.Sponsor
import FunaiSdk.FeeNonce
import FunaiSdk.Verify
import FunaiSdk.Api
import FunaiSdk.Staking
import FunaiSdk.TaskQuery
import FunaiSdk.SignerApi
import FunaiSdk.Wait
import FunaiSdk.Bns
