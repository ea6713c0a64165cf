import Intel3A.Binary32
import Intel3A.Basic
import Intel3A.Types
import Intel3A.State
import Intel3A.Ae
import Intel3A.Awb
import Intel3A.Af
import Intel3A.Machine
import Intel3A.AfTrigger
import Intel3A.Exposure
import Intel3A.WhiteBalance
import Intel3A.AfProtocol
import Intel3A.History
import Intel3A.Ranges
