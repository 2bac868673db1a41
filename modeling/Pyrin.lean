import Pyrin.Core.Dict
import Pyrin.Core.Value
import Pyrin.Core.Classes
import Pyrin.Security.Hashing.Manager
import Pyrin.Security.Session.Manager
import Pyrin.Database.Model.Entity
import Pyrin.Database.Orm.Schema.Column
import Pyrin.Database.Model.Conversion
import Pyrin.Database.Model.Runs
import Pyrin.Utils.File
