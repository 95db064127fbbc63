import EvsCli.Json
import EvsCli.Text
import EvsCli.Params
import EvsCli.ParamsSound
import EvsCli.BuildSound
import EvsCli.Client
import EvsCli.Call
import EvsCli.CallSound
import EvsCli.DebugSound
import EvsCli.TraceSound
import EvsCli.OutputSound
import EvsCli.DInterface
import EvsCli.EntrySound
