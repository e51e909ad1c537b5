import Pnio.CmSession
import Pnio.CmReady
import Pnio.ArActivity
import Pnio.AlarmAcked
import Pnio.AlarmOrder
import Pnio.AlarmOnce
import Pnio.AlarmRetry
import Pnio.RtRun
import Pnio.EngineTick
import Pnio.DiagRun
import Pnio.DcpReply
import Pnio.DcpIdentify
import Pnio.Bpf
import Pnio.ConnectSynthetic
import Pnio.ConnectOrder
import Pnio.Gsdml
import Pnio.DeviceChannel
import Pnio.DeviceView
import Pnio.DeviceImage
import Pnio.DeviceAbort
import Pnio.ApiInputs
import Pnio.ApiOutputs
import Pnio.FieldSpec
import Pnio.WriteSpec
import Pnio.FrameSafe
import Pnio.ThirdParty
import Pnio.CmWire
import Pnio.ImRun
import Pnio.ImCrash
import Pnio.RpcSpec
import Pnio.DcpSpec
import Pnio.AlarmFit
import Pnio.RtGrid
import Pnio.PollWait
import Pnio.GsdmlIds
import Pnio.GsdmlImport
import Pnio.ImageLocks
import Pnio.RtAccount
import Pnio.StackFresh
import Pnio.StackAlone
import Pnio.CmHandshake
import Pnio.AlarmPatience
